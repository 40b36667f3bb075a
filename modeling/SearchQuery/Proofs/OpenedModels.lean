import SearchQuery.Proofs.Composition

/-!
# Fields that hold no model

Below a field that is no model names are kept as they are: the keys of a
dictionary, and everything below a member that is opened.
-/

namespace SearchQuery

/-!
## Keys of dictionaries

Below a member that holds no model, segments stand for themselves, and so do the
keys of a dictionary of plain values.  But the model that a path goes on in is
looked for in the keys and values of a dictionary as well: a key of a dictionary
of models is taken for a member of the first of them, and is replaced by the
stored name of that member or refused as unknown.
-/

/-- The annotation of a dictionary, which may be optional. -/
inductive Annotation.IsDictionary (key value : Annotation) : Annotation → Prop where
  | dict : IsDictionary key value (.dict key value)
  | optional {a : Annotation} (inner : IsDictionary key value a) :
      IsDictionary key value (.optional a)

/-- A path goes on below a dictionary in the first model of its keys or else of its values. -/
theorem Annotation.IsDictionary.nested {key value a : Annotation}
    (dictionary : IsDictionary key value a) : a.nested = (key.models ++ value.models).head? := by
  have same : a.models = key.models ++ value.models := by
    induction dictionary with
    | dict => rfl
    | optional inner ih => exact ih
  rw [nested_eq_head?, same]

namespace Model

/-- A model keeps a segment when this is stored as it is: as a member under that name, or as an
undeclared member where these are allowed. -/
def Keeps (m : Model) (segment : String) : Prop :=
  match m.lookup? segment with
  | some member => member.storedName = segment
  | none => m.extra = .allow

theorem lookup?_of_unnamed {m : Model} {segment : String}
    (unnamed : ∀ member ∈ m.members, member.name ≠ segment ∧ member.storedName ≠ segment) :
    m.lookup? segment = none := by
  have own : m.member? segment = none :=
    List.find?_eq_none.mpr (fun member held => by simpa using (unnamed member held).1)
  have stored : m.members.find? (fun member => member.storedName == segment) = none :=
    List.find?_eq_none.mpr (fun member held => by simpa using (unnamed member held).2)
  rw [lookup?, own, stored]

theorem exists_bound (names : List String) : ∃ bound, ∀ name ∈ names, name.length ≤ bound := by
  induction names with
  | nil => exact ⟨0, fun _ held => absurd held List.not_mem_nil⟩
  | cons name rest ih =>
      obtain ⟨bound, within⟩ := ih
      refine ⟨max name.length bound, List.forall_mem_cons.mpr ⟨Nat.le_max_left _ _, ?_⟩⟩
      exact fun other held => Nat.le_trans (within other held) (Nat.le_max_right _ _)

/-- Some segment is longer than every name in a model, and so means nothing there. -/
theorem exists_unknown (m : Model) :
    ∃ segment, segment ≠ "" ∧ '.' ∉ segment.toList ∧ m.lookup? segment = none := by
  obtain ⟨bound, within⟩ := exists_bound (m.members.map Member.name ++ m.members.map Member.storedName)
  have longer : ∀ name : String, name.length ≤ bound →
      name ≠ String.ofList (List.replicate (bound + 1) 'k') := by
    rintro name short rfl
    rw [String.length_ofList, List.length_replicate] at short
    exact absurd short (Nat.not_succ_le_self bound)
  refine ⟨String.ofList (List.replicate (bound + 1) 'k'), (longer "" (by simp)).symm, by simp,
    lookup?_of_unnamed (fun member held => ⟨longer _ (within _ ?_), longer _ (within _ ?_)⟩)⟩
  · exact List.mem_append_left _ (List.mem_map_of_mem held)
  · exact List.mem_append_right _ (List.mem_map_of_mem held)

end Model

namespace Schema

variable {c : Catalog} {m : ModelName} {f k : String} {member : Member}

/-- A single segment is resolved by its own look-up. -/
theorem resolveName_segment (given : k ≠ "") (dotless : '.' ∉ k.toList) :
    resolveName c m k =
      match (c m).lookup? k with
      | some inner => .ok inner.storedName
      | none => if (c m).extra = .allow then .ok k else .error (.unknown m.name k) := by
  rw [resolveName, if_neg given, serialize, Text.segments_of_dotless dotless, Catalog.storedNames]
  cases (c m).lookup? k with
  | some inner =>
      dsimp only
      rw [Catalog.storedNames_nil]
      simp [Text.dotted, Text.joinDots]
  | none =>
      by_cases allows : (c m).extra = .allow
      · simp [allows, Text.dotted, Text.joinDots]
      · simp [allows]

/-- A key below a member is resolved in the model nested in the member, or stands for itself. -/
theorem resolveName_key (found : (c m).member? f = some member) (dotless : '.' ∉ f.toList)
    (given : k ≠ "") :
    resolveName c m (f ++ "." ++ k) =
      (resolveAfter c member.content.nested k).map (member.storedName ++ "." ++ ·) := by
  have walk : c.Walk (some m) (Text.segments f) [member] member.content.nested := by
    rw [Text.segments_of_dotless dotless]
    exact .step (Model.lookup?_of_member? found) (.here _)
  rw [resolveName_append given walk]
  simp [Text.dotted, Text.joinDots]

/-- A key below a member is stored as it is exactly when the model nested in the member keeps it. -/
theorem resolveName_key_kept (found : (c m).member? f = some member) (dotless : '.' ∉ f.toList)
    (given : k ≠ "") (single : '.' ∉ k.toList) :
    resolveName c m (f ++ "." ++ k) = .ok (member.storedName ++ "." ++ k) ↔
      ∀ n ∈ member.content.nested, (c n).Keeps k := by
  rw [resolveName_key found dotless given]
  cases member.content.nested with
  | none => simp [resolveAfter, Except.map]
  | some n =>
      have one : (∀ n' ∈ some n, (c n').Keeps k) ↔ (c n).Keeps k := by simp
      rw [one, resolveAfter, resolveName_segment given single, Model.Keeps]
      cases (c n).lookup? k with
      | some inner => simp [Except.map]
      | none => by_cases allows : (c n).extra = .allow <;> simp [Except.map, allows]

/-- Every key of a dictionary under a member is stored as it is exactly when the dictionary holds no
model, or the first of its models allows undeclared members and renames none that a key can mean.
Otherwise a key is replaced by the stored name of the member that it means in that model, or refused
there. -/
theorem dictionary_keys_kept {key value : Annotation} (found : (c m).member? f = some member)
    (dictionary : Annotation.IsDictionary key value member.content) (dotless : '.' ∉ f.toList) :
    ((∀ k, k ≠ "" → '.' ∉ k.toList → resolve c (.modelled m) (.text (f ++ "." ++ k)) =
        .ok (.plain (member.storedName ++ "." ++ k))) ↔
      ∀ n ∈ (key.models ++ value.models).head?, (c n).extra = .allow ∧
        ∀ k, k ≠ "" → '.' ∉ k.toList → ∀ inner, (c n).lookup? k = some inner → inner.storedName = k) ∧
    ∀ k, k ≠ "" → '.' ∉ k.toList → ∀ n ∈ (key.models ++ value.models).head?,
      (∀ inner, (c n).lookup? k = some inner →
        resolve c (.modelled m) (.text (f ++ "." ++ k)) =
          .ok (.plain (member.storedName ++ "." ++ inner.storedName))) ∧
      ((c n).lookup? k = none → (c n).extra ≠ .allow →
        resolve c (.modelled m) (.text (f ++ "." ++ k)) =
          .error (.unresolved (.text (f ++ "." ++ k)) (.unknown n.name k))) := by
  rw [← dictionary.nested]
  have kept : ∀ k, k ≠ "" → '.' ∉ k.toList →
      (resolve c (.modelled m) (.text (f ++ "." ++ k)) =
        .ok (.plain (member.storedName ++ "." ++ k)) ↔
          ∀ n ∈ member.content.nested, (c n).Keeps k) := by
    intro k given single
    rw [← resolveName_key_kept found dotless given single, resolve_text_eq_ok]
    constructor
    · rintro ⟨stored, resolved, same⟩
      cases same
      exact resolved
    · intro resolved
      exact ⟨_, resolved, rfl⟩
  constructor
  · constructor
    · intro all n nested
      have keeps : ∀ k, k ≠ "" → '.' ∉ k.toList → (c n).Keeps k :=
        fun k given single => (kept k given single).mp (all k given single) n nested
      constructor
      · obtain ⟨k, given, single, unknown⟩ := (c n).exists_unknown
        have allows := keeps k given single
        rwa [Model.Keeps, unknown] at allows
      · intro k given single inner meant
        have same := keeps k given single
        rwa [Model.Keeps, meant] at same
    · intro transparent k given single
      refine (kept k given single).mpr (fun n nested => ?_)
      obtain ⟨allows, same⟩ := transparent n nested
      unfold Model.Keeps
      cases meant : (c n).lookup? k with
      | some inner => exact same k given single inner meant
      | none => exact allows
  · intro k given single n nested
    have through := resolveName_key found dotless given
    rw [nested, resolveAfter, resolveName_segment given single] at through
    constructor
    · intro inner meant
      rw [meant] at through
      exact resolve_text_eq_ok.mpr ⟨_, through, rfl⟩
    · intro unknown strict
      rw [unknown] at through
      rw [resolve_text, through, if_neg strict]
      rfl

end Schema

/-- An address whose street is stored under a shorter name. -/
def addressModel : Declaration :=
  ⟨⟨"models", "Address"⟩, none, none, [⟨"street", .scalar "str", none, some "st", none⟩]⟩

/-- A contact, with notes and addresses under keys of their own. -/
def contactModel : Declaration :=
  ⟨⟨"models", "Contact"⟩, none, none,
    [⟨"notes", .optional (.dict (.scalar "str") (.scalar "str")), none, some "n", none⟩,
      ⟨"homes", .dict (.scalar "str") (.model addressModel.name), none, none, none⟩]⟩

def contactCatalog : Catalog :=
  (Catalog.empty.declare addressModel).declare contactModel

/-- The keys of notes are kept; not every key of homes is, since one that names a street is replaced
as a street is. -/
theorem contactCatalog_keys :
    Schema.resolve contactCatalog (.modelled contactModel.name) (.text ("notes" ++ "." ++ "street")) =
        .ok (.plain ("n" ++ "." ++ "street")) ∧
      Schema.resolve contactCatalog (.modelled contactModel.name)
        (.text ("homes" ++ "." ++ "street")) = .ok (.plain ("homes" ++ "." ++ "st")) := by
  constructor
  · have notes : (contactCatalog contactModel.name).member? "notes" =
        some ⟨"notes", .optional (.dict (.scalar "str") (.scalar "str")), none, some "n", none⟩ := rfl
    obtain ⟨all, -⟩ := Schema.dictionary_keys_kept notes (.optional .dict) (by decide)
    refine all.mpr ?_ "street" (by decide) (by decide)
    rintro n ⟨⟩
  · have homes : (contactCatalog contactModel.name).member? "homes" =
        some ⟨"homes", .dict (.scalar "str") (.model addressModel.name), none, none, none⟩ := rfl
    obtain ⟨-, each⟩ := Schema.dictionary_keys_kept homes .dict (by decide)
    obtain ⟨replaced, -⟩ := each "street" (by decide) (by decide) addressModel.name rfl
    exact replaced ⟨"street", .scalar "str", none, some "st", none⟩ rfl

/-- A key of homes that no member of an address has is refused. -/
theorem contactCatalog_home_refused :
    ∃ homes, (contactCatalog contactModel.name).member? "homes" = some homes ∧
      Annotation.IsDictionary (.scalar "str") (.model addressModel.name) homes.content ∧
        Schema.resolve contactCatalog (.modelled contactModel.name) (.text ("homes" ++ "." ++ "main")) =
          .error (.unresolved (.text "homes.main") (.unknown "Address" "main")) :=
  ⟨_, rfl, .dict, rfl⟩

/-!
## Models opened to undeclared members

A segment is looked up among the declared members first, by their own names and
by their stored ones, and only what means none of them can be undeclared.  So a
catalog in which more models allow undeclared members leads a path along the
same members, and keeps the name that it had.  A path that was refused stopped
in one model: unless that model is opened it is refused as before, and else it
has the names of the members before the stop, and the rest of it as it stands.
-/

namespace Catalog

/-- The catalog in which some of the models allow undeclared members, whatever they did. -/
def opening (c : Catalog) (opened : ModelName → Bool) : Catalog := fun n =>
  if opened n then { c n with extra := .allow } else c n

/-- Undeclared members are allowed by a model and by all that are reached from it. -/
def OpenFrom (c : Catalog) (m : ModelName) : Prop :=
  ∀ n, c.Reaches m n → (c n).extra = .allow

variable {c : Catalog} {opened : ModelName → Bool} {m n : ModelName}
  {start target : Option ModelName} {walked rest : List String} {members : List Member}

@[simp]
theorem opening_members : (c.opening opened n).members = (c n).members := by
  unfold opening
  split <;> rfl

@[simp]
theorem opening_extra :
    (c.opening opened n).extra = if opened n then .allow else (c n).extra := by
  unfold opening
  split <;> rfl

@[simp]
theorem opening_lookup? (segment : String) :
    (c.opening opened n).lookup? segment = (c n).lookup? segment := by
  simp only [Model.lookup?, Model.member?, opening_members]

/-- Walks go along the same members, whatever models are opened. -/
theorem Walk.opening (walk : c.Walk start walked members target) :
    (c.opening opened).Walk start walked members target := by
  induction walk with
  | here current => exact .here current
  | step found rest ih => exact .step ((opening_lookup? _).trans found) ih

/-- What stands for itself still does when models are opened. -/
theorem Verbatim.opening (verbatim : c.Verbatim target rest) :
    (c.opening opened).Verbatim target rest := by
  cases target with
  | none => trivial
  | some n =>
      cases rest with
      | nil => trivial
      | cons segment more =>
          obtain ⟨unmeant, allows⟩ := verbatim
          refine ⟨(opening_lookup? _).trans unmeant, ?_⟩
          rw [opening_extra, allows, ite_self]

/-- A walk leads to a model that is reached from where it starts. -/
theorem Walk.reaches (walk : c.Walk start walked members target) (begins : start = some m)
    (ends : target = some n) : c.Reaches m n := by
  induction walk generalizing m with
  | here current =>
      cases begins.symm.trans ends
      exact .refl _
  | @step model segment member segments members target found rest ih =>
      cases begins
      have held := Model.mem_of_lookup? found
      cases leads : member.content.nested with
      | some next => exact .through held leads (ih leads ends)
      | none =>
          rw [leads, ends] at rest
          cases rest

end Catalog

namespace Schema

variable {c : Catalog} {opened : ModelName → Bool} {m n : ModelName} {s name segment : String}
  {known rest : List String} {members : List Member}

/-- A path that has a name keeps it when models are opened. -/
theorem resolveName_opening (found : resolveName c m s = .ok name) :
    resolveName (c.opening opened) m s = .ok name := by
  obtain ⟨given, walked, rest, members, target, same, walk, verbatim, rfl⟩ :=
    resolveName_eq_ok.mp found
  exact resolveName_eq_ok.mpr
    ⟨given, walked, rest, members, target, same, walk.opening, verbatim.opening, rfl⟩

/-- What stops the resolution of a path: after the segments of some members, one that means no
member of the model reached, which allows no undeclared ones. -/
structure StopsAt (c : Catalog) (m : ModelName) (segments known : List String)
    (members : List Member) (n : ModelName) (segment : String) (rest : List String) : Prop where
  cut : segments = known ++ segment :: rest
  walk : c.Walk (some m) known members (some n)
  unmeant : (c n).lookup? segment = none
  strict : (c n).extra ≠ .allow

/-- A path that is not empty is refused exactly where its resolution stops. -/
theorem resolveName_eq_error (given : s ≠ "") {reason : Mismatch} :
    resolveName c m s = .error reason ↔
      ∃ known members n segment rest,
        StopsAt c m (Text.segments s) known members n segment rest ∧
          reason = .unknown n.name segment := by
  rw [resolveName, if_neg given, serialize]
  constructor
  · intro stopped
    split at stopped
    · cases stopped
    · rename_i unknown refused
      cases stopped
      obtain ⟨known, rest, members, cut, walk, unmeant, strict⟩ :=
        Catalog.storedNames_eq_error.mp refused
      exact ⟨known, members, _, _, rest, ⟨cut, walk, unmeant, strict⟩, rfl⟩
  · rintro ⟨known, members, n, segment, rest, stops, rfl⟩
    have refused : c.storedNames (some m) (Text.segments s) = .error ⟨n, segment⟩ :=
      Catalog.storedNames_eq_error.mpr
        ⟨known, rest, members, stops.cut, stops.walk, stops.unmeant, stops.strict⟩
    rw [refused]

/-- A path that stops in a model that is opened has the names of the members before the stop, and
the rest of it as it stands; in any other model it stops still. -/
theorem StopsAt.opening (stops : StopsAt c m (Text.segments s) known members n segment rest)
    (given : s ≠ "") :
    resolveName (c.opening opened) m s =
      if opened n then .ok (Text.dotted (members.map Member.storedName ++ segment :: rest))
      else .error (.unknown n.name segment) := by
  have unmeant : (c.opening opened n).lookup? segment = none :=
    (Catalog.opening_lookup? segment).trans stops.unmeant
  cases free : opened n with
  | true =>
      have allows : (c.opening opened n).extra = .allow := by
        rw [Catalog.opening_extra, free, if_pos rfl]
      exact resolveName_eq_ok.mpr
        ⟨given, known, _, members, _, stops.cut, stops.walk.opening, ⟨unmeant, allows⟩, rfl⟩
  | false =>
      have strict : (c.opening opened n).extra ≠ .allow := by
        rw [Catalog.opening_extra, free]
        exact stops.strict
      exact (resolveName_eq_error given).mpr
        ⟨known, members, n, segment, rest, ⟨stops.cut, stops.walk.opening, unmeant, strict⟩, rfl⟩

/-- Where undeclared members are allowed throughout, every path that is not empty has a name. -/
theorem resolveName_of_openFrom (free : c.OpenFrom m) (given : s ≠ "") :
    ∃ name, resolveName c m s = .ok name := by
  cases resolved : resolveName c m s with
  | ok name => exact ⟨name, rfl⟩
  | error reason =>
      obtain ⟨known, members, n, segment, rest, stops, -⟩ :=
        (resolveName_eq_error given).mp resolved
      exact absurd (free n (stops.walk.reaches rfl rfl)) stops.strict

/-- When models are opened to undeclared members, every path that had a name keeps it.  A path that
was refused stopped at a segment in one model: if this is opened, the path has the names of the
members before the stop and then its own rest, and otherwise it is refused as before.  Where
undeclared members are allowed by every model that is reached, each path that is not empty has a
name: those of the members on a walk along it, followed by the rest as it stands. -/
theorem resolve_opening (c : Catalog) (m : ModelName) :
    (∀ opened s name, resolve c (.modelled m) (.text s) = .ok name →
      resolve (c.opening opened) (.modelled m) (.text s) = .ok name) ∧
    (∀ s fault, s ≠ "" → resolve c (.modelled m) (.text s) = .error fault →
      ∃ known members n segment rest,
        StopsAt c m (Text.segments s) known members n segment rest ∧
        fault = .unresolved (.text s) (.unknown n.name segment) ∧
        ∀ opened, resolve (c.opening opened) (.modelled m) (.text s) =
          if opened n then
            .ok (.plain (Text.dotted (members.map Member.storedName ++ segment :: rest)))
          else .error fault) ∧
    (c.OpenFrom m → ∀ s, s ≠ "" → ∃ name, resolve c (.modelled m) (.text s) = .ok (.plain name) ∧
      StoredAs c m (Text.segments s) name) := by
  refine ⟨?_, ?_, ?_⟩
  · intro opened s name found
    obtain ⟨stored, resolved, rfl⟩ := resolve_text_eq_ok.mp found
    exact resolve_text_eq_ok.mpr ⟨stored, resolveName_opening resolved, rfl⟩
  · intro s fault given stopped
    rw [resolve_text] at stopped
    cases resolved : resolveName c m s with
    | ok stored =>
        rw [resolved] at stopped
        cases stopped
    | error reason =>
        rw [resolved] at stopped
        cases stopped
        obtain ⟨known, members, n, segment, rest, stops, rfl⟩ :=
          (resolveName_eq_error given).mp resolved
        refine ⟨known, members, n, segment, rest, stops, rfl, fun opened => ?_⟩
        rw [resolve_text, stops.opening given]
        cases opened n <;> rfl
  · intro free s given
    obtain ⟨name, resolved⟩ := resolveName_of_openFrom free given
    exact ⟨name, resolve_text_eq_ok.mpr ⟨name, resolved, rfl⟩, (resolveName_eq_ok.mp resolved).2⟩

end Schema

/-- A label inside a node keeps its name when all models are opened, and a title, which no node
declares, gets one; then every path has one, even one whose segments are empty. -/
theorem nodeCatalog_opening :
    Schema.resolve (nodeCatalog.opening (fun _ => true)) (.modelled nodeModel.name)
        (.text "next.next.label") = .ok (.plain "n.n.next") ∧
      Schema.resolve nodeCatalog (.modelled nodeModel.name) (.text "n.title.en") =
        .error (.unresolved (.text "n.title.en") (.unknown "Node" "title")) ∧
      (∃ name, Schema.resolve (nodeCatalog.opening (fun _ => true)) (.modelled nodeModel.name)
        (.text "n.title.en") = .ok name) ∧
      ∃ name, Schema.resolve (nodeCatalog.opening (fun _ => true)) (.modelled nodeModel.name)
        (.text "next..label") = .ok name := by
  obtain ⟨kept, refused, -⟩ := Schema.resolve_opening nodeCatalog nodeModel.name
  obtain ⟨-, -, named⟩ :=
    Schema.resolve_opening (nodeCatalog.opening (fun _ => true)) nodeModel.name
  refine ⟨kept _ "next.next.label" (.plain "n.n.next") rfl, rfl, ?_, ?_⟩
  · obtain ⟨_, _, _, _, _, -, -, after⟩ := refused "n.title.en" _ (by decide) rfl
    exact ⟨_, after (fun _ => true)⟩
  · have free : (nodeCatalog.opening (fun _ => true)).OpenFrom nodeModel.name :=
      fun n _ => Catalog.opening_extra
    obtain ⟨name, found, -⟩ := named free "next..label" (by decide)
    exact ⟨_, found⟩

end SearchQuery
