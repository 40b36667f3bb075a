import Mathlib.Data.List.Forall2
import Mathlib.Data.List.Nodup
import SearchQuery.Proofs.References
import SearchQuery.Proofs.StoredNames

/-!
# Resolving dotted names

Names are resolved segment by segment, so that resolving composes along a chain,
and a name that is resolved once more stays as it is.
-/

namespace SearchQuery

/-!
## Composed paths

A name that is resolved is that of the members on a walk along its segments,
followed by segments that stand for themselves.  So the name of a composed path
whose first part is walked to its end is that of the first part, followed by the
name that the second part has in the model reached.
-/

namespace Schema

variable {c : Catalog} {m : ModelName} {p q : String} {members : List Member}
  {target : Option ModelName}

theorem resolve_text (c : Catalog) (m : ModelName) (s : String) :
    resolve c (.modelled m) (.text s) = outcome (.name (.plain s)) (resolveName c m s) :=
  rfl

theorem outcome_eq_ok {field : Field} {found : Except Mismatch String} {name : Words} :
    outcome field found = .ok name ↔ ∃ stored, found = .ok stored ∧ name = .plain stored := by
  cases found <;> simp [outcome, eq_comm]

theorem resolve_text_eq_ok {s : String} {name : Words} :
    resolve c (.modelled m) (.text s) = .ok name ↔
      ∃ stored, resolveName c m s = .ok stored ∧ name = .plain stored := by
  rw [resolve_text, outcome_eq_ok]

/-- What a path of segments is stored under, if anything: the names of the members on a walk along
it, followed by segments that stand for themselves. -/
def StoredAs (c : Catalog) (m : ModelName) (segments : List String) (name : String) : Prop :=
  ∃ walked rest members target, segments = walked ++ rest ∧
    c.Walk (some m) walked members target ∧ c.Verbatim target rest ∧
      name = Text.dotted (members.map Member.storedName ++ rest)

theorem serialize_eq_ok {segments : List String} {name : String} :
    serialize c m segments = .ok name ↔ StoredAs c m segments name := by
  unfold serialize StoredAs
  constructor
  · intro found
    split at found
    · rename_i names stored
      cases found
      obtain ⟨walked, rest, members, target, same, walk, verbatim, rfl⟩ :=
        Catalog.storedNames_eq_ok.mp stored
      exact ⟨walked, rest, members, target, same, walk, verbatim, rfl⟩
    · cases found
  · rintro ⟨walked, rest, members, target, same, walk, verbatim, rfl⟩
    rw [Catalog.storedNames_eq_ok.mpr ⟨walked, rest, members, target, same, walk, verbatim, rfl⟩]

theorem resolveName_eq_ok {s name : String} :
    resolveName c m s = .ok name ↔ s ≠ "" ∧ StoredAs c m (Text.segments s) name := by
  unfold resolveName
  by_cases empty : s = ""
  · simp [empty]
  · rw [if_neg empty, and_iff_right empty, serialize_eq_ok]

theorem resolveChain_eq_ok {r : FieldRef} {name : String} :
    resolveChain c m r = .ok name ↔ c.inherits m r.owner = true ∧ StoredAs c m r.parts name := by
  unfold resolveChain
  cases c.inherits m r.owner with
  | false => simp
  | true => rw [if_pos rfl, and_iff_right rfl, serialize_eq_ok]

/-- A path that is walked to its end is stored under the names of the members on the way. -/
theorem resolveName_walk (given : p ≠ "") (walk : c.Walk (some m) (Text.segments p) members target) :
    resolveName c m p = .ok (Text.dotted (members.map Member.storedName)) := by
  refine resolveName_eq_ok.mpr ⟨given, Text.segments p, [], members, target, ?_, walk, ?_, ?_⟩
  · rw [List.append_nil]
  · cases target <;> trivial
  · rw [List.append_nil]

/-- How the rest of a path is resolved after a walk: in the model that is reached, or as it stands. -/
def resolveAfter (c : Catalog) : Option ModelName → String → Except Mismatch String
  | some n, q => resolveName c n q
  | none, q => .ok q

/-- Resolving a composed path resolves its second part where the walk along the first one ends. -/
theorem resolveName_append (more : q ≠ "")
    (walk : c.Walk (some m) (Text.segments p) members target) :
    resolveName c m (p ++ "." ++ q) = (resolveAfter c target q).map
      (Text.dotted (members.map Member.storedName) ++ "." ++ ·) := by
  have whole : p ++ "." ++ q ≠ "" := by simp
  have first : members.map Member.storedName ≠ [] :=
    fun none => walk.members_ne_nil (Text.segments_ne_nil p) (List.map_eq_nil_iff.mp none)
  have joined : ∀ names, names ≠ [] → Text.dotted (members.map Member.storedName ++ names) =
      Text.dotted (members.map Member.storedName) ++ "." ++ Text.dotted names :=
    fun names second => Text.dotted_append first second
  rw [resolveName, if_neg whole, serialize, Text.segments_append_stop, walk.storedNames]
  cases target with
  | none =>
      have after : c.storedNames none (Text.segments q) = .ok (Text.segments q) := by
        cases Text.segments q <;> rfl
      rw [after]
      simp only [Except.map, resolveAfter, joined _ (Text.segments_ne_nil q), Text.dotted_segments]
  | some n =>
      rw [resolveAfter, resolveName, if_neg more, serialize]
      cases later : c.storedNames (some n) (Text.segments q) with
      | error unknown => rfl
      | ok names =>
          have second : names ≠ [] := by
            rintro rfl
            exact Text.segments_ne_nil q (Catalog.storedNames_eq_nil later)
          simp only [Except.map, joined names second]

/-- The name of a composed path whose first part means members throughout is the
name of the first part followed by that of the second: its name in the model
that the first part leads to, where what fails fails for the same reason, or the
second part itself if there is no such model.  And every path that has a name,
whether it is written as a text or as a reference, is a walk along members
followed by segments that stand for themselves. -/
theorem resolve_composed (c : Catalog) (m : ModelName) :
    (∀ p q members target, p ≠ "" → q ≠ "" → c.Walk (some m) (Text.segments p) members target →
      ∃ name, resolve c (.modelled m) (.text p) = .ok (.plain name) ∧
        (∀ n, target = some n → ∀ rest, resolve c (.modelled n) (.text q) = .ok rest →
          resolve c (.modelled m) (.text (p ++ "." ++ q)) =
            .ok (.plain (name ++ "." ++ rest.text))) ∧
        (∀ n, target = some n → ∀ fault, resolve c (.modelled n) (.text q) = .error fault →
          ∃ reason, fault = .unresolved (.text q) reason ∧
            resolve c (.modelled m) (.text (p ++ "." ++ q)) =
              .error (.unresolved (.text (p ++ "." ++ q)) reason)) ∧
        (target = none → resolve c (.modelled m) (.text (p ++ "." ++ q)) =
          .ok (.plain (name ++ "." ++ q)))) ∧
    (∀ s name, resolve c (.modelled m) (.text s) = .ok name →
      StoredAs c m (Text.segments s) name.text) ∧
    ∀ r name, resolve c (.modelled m) (.node (.field r)) = .ok name →
      StoredAs c m r.parts name.text := by
  refine ⟨?_, ?_, ?_⟩
  · intro p q members target given more walk
    have composed := resolveName_append more walk
    refine ⟨Text.dotted (members.map Member.storedName), ?_, ?_, ?_, ?_⟩
    · exact resolve_text_eq_ok.mpr ⟨_, resolveName_walk given walk, rfl⟩
    · rintro n rfl rest found
      obtain ⟨stored, later, rfl⟩ := resolve_text_eq_ok.mp found
      rw [resolveAfter, later] at composed
      exact resolve_text_eq_ok.mpr ⟨_, composed, rfl⟩
    · rintro n rfl fault stopped
      rw [resolve_text] at stopped
      rw [resolveAfter] at composed
      cases later : resolveName c n q with
      | ok stored =>
          rw [later] at stopped
          cases stopped
      | error reason =>
          rw [later] at stopped composed
          cases stopped
          refine ⟨reason, rfl, ?_⟩
          rw [resolve_text, composed]
          rfl
    · rintro rfl
      exact resolve_text_eq_ok.mpr ⟨_, composed, rfl⟩
  · intro s name found
    obtain ⟨stored, resolved, rfl⟩ := resolve_text_eq_ok.mp found
    exact (resolveName_eq_ok.mp resolved).2
  · intro r name found
    obtain ⟨stored, resolved, rfl⟩ := outcome_eq_ok.mp found
    exact (resolveChain_eq_ok.mp resolved).2

end Schema

def nodeModel.next : Member :=
  ⟨"next", .optional (.model nodeModel.name), none, some "n", none⟩

def nodeModel.label : Member :=
  ⟨"label", .scalar "str", some "next", none, none⟩

/-- Below a node that is reached by an own and by a stored name, names are those of a node, faults
too; below a label they stand for themselves, empty ones as well. -/
theorem nodeCatalog_composed :
    Schema.resolve nodeCatalog (.modelled nodeModel.name) (.text "next.n.next.label") =
        .ok (.plain "n.n.n.next") ∧
      (∃ reason, Schema.resolve nodeCatalog (.modelled nodeModel.name) (.text "next.n.title") =
        .error (.unresolved (.text "next.n.title") reason)) ∧
      Schema.resolve nodeCatalog (.modelled nodeModel.name) (.text "n.label.a..b") =
        .ok (.plain "n.next.a..b") := by
  obtain ⟨composed, -⟩ := Schema.resolve_composed nodeCatalog nodeModel.name
  have nodes : nodeCatalog.Walk (some nodeModel.name) (Text.segments "next.n")
      [nodeModel.next, nodeModel.next] (some nodeModel.name) :=
    .step rfl (.step rfl (.here _))
  have labels : nodeCatalog.Walk (some nodeModel.name) (Text.segments "n.label")
      [nodeModel.next, nodeModel.label] none :=
    .step rfl (.step rfl (.here _))
  refine ⟨?_, ?_, ?_⟩
  · obtain ⟨name, first, inside, -, -⟩ := composed "next.n" "next.label" _ _ (by decide) (by decide) nodes
    cases first.symm.trans rfl
    exact inside _ rfl (.plain "n.next") rfl
  · obtain ⟨name, -, -, stopped, -⟩ := composed "next.n" "title" _ _ (by decide) (by decide) nodes
    obtain ⟨reason, -, fails⟩ := stopped _ rfl _ rfl
    exact ⟨reason, fails⟩
  · obtain ⟨name, first, -, -, below⟩ := composed "n.label" "a..b" _ _ (by decide) (by decide) labels
    cases first.symm.trans rfl
    exact below rfl

/-!
## Stored names resolve to themselves

Where no stored name of a model is shared, cut by full stops, or the own name
of another member, a stored name means the very member that is stored under it.
A walk along the stored names of members is then a walk along these members,
through models that may well nest each other, and comes to the same model; so
what has been resolved resolves to itself.
-/

/-- A segment is a member's own name or the name that it is stored under. -/
def Member.SpelledAs (m : Member) (segment : String) : Prop :=
  segment = m.name ∨ segment = m.storedName

/-- The stored names of a model are all different and single segments, and none is the own name of
another member. -/
structure Model.Unambiguous (m : Model) : Prop where
  distinct : (m.members.map Member.storedName).Nodup
  dotless : ∀ member ∈ m.members, '.' ∉ member.storedName.toList
  apart : ∀ member ∈ m.members, ∀ other ∈ m.members, member.storedName = other.name → member = other

namespace Model

variable {m : Model} {member : Member} {segment : String}

/-- In an unambiguous model a stored name means the member that is stored under it. -/
theorem Unambiguous.lookup?_storedName (clear : m.Unambiguous) (held : member ∈ m.members) :
    m.lookup? member.storedName = some member := by
  unfold lookup?
  cases named : m.member? member.storedName with
  | some other =>
      obtain ⟨there, same⟩ := member?_sound named
      rw [clear.apart member held other there same.symm]
  | none =>
      cases stored : m.members.find? (fun other => other.storedName == member.storedName) with
      | none =>
          have unlike := List.find?_eq_none.mp stored member held
          exact absurd (beq_self_eq_true _) unlike
      | some other =>
          have there := List.mem_of_find?_eq_some stored
          have same := List.find?_some stored
          rw [List.inj_on_of_nodup_map clear.distinct there held (eq_of_beq same)]

/-- In an unambiguous model a member is meant by either of its names. -/
theorem Unambiguous.lookup?_spelled (clear : m.Unambiguous)
    (found : m.member? member.name = some member) (spelled : member.SpelledAs segment) :
    m.lookup? segment = some member := by
  rcases spelled with rfl | rfl
  · exact lookup?_of_member? found
  · exact clear.lookup?_storedName (member?_sound found).1

end Model

namespace Catalog

/-- The models that are nested in the members of a model, in theirs, and so on. -/
inductive Reaches (c : Catalog) : ModelName → ModelName → Prop where
  | refl (m : ModelName) : Reaches c m m
  | through {m next target : ModelName} {member : Member} (held : member ∈ (c m).members)
      (leads : member.content.nested = some next) (rest : Reaches c next target) :
      Reaches c m target

/-- Every model that is reached from a starting point, if there is one, is unambiguous. -/
def UnambiguousFrom (c : Catalog) (start : Option ModelName) : Prop :=
  ∀ m ∈ start, ∀ n, c.Reaches m n → (c n).Unambiguous

variable {c : Catalog} {m : ModelName} {start target : Option ModelName} {walked names : List String}
  {members : List Member} {member : Member}

theorem UnambiguousFrom.here (clear : c.UnambiguousFrom (some m)) : (c m).Unambiguous :=
  clear m rfl m (.refl m)

theorem UnambiguousFrom.below (clear : c.UnambiguousFrom (some m)) (held : member ∈ (c m).members) :
    c.UnambiguousFrom member.content.nested :=
  fun _ leads n reached => clear m rfl n (.through held leads reached)

namespace Walk

/-- The stored names of the members on a walk are a walk along the same members. -/
theorem restored (walk : c.Walk start walked members target) (clear : c.UnambiguousFrom start) :
    c.Walk start (members.map Member.storedName) members target := by
  induction walk with
  | here current => exact .here current
  | step found rest ih =>
      have held := Model.mem_of_lookup? found
      exact .step (clear.here.lookup?_storedName held) (ih (clear.below held))

theorem storedName_dotless (walk : c.Walk start walked members target)
    (clear : c.UnambiguousFrom start) : ∀ name ∈ members.map Member.storedName, '.' ∉ name.toList := by
  induction walk with
  | here current => exact fun name held => absurd held List.not_mem_nil
  | step found rest ih =>
      have held := Model.mem_of_lookup? found
      exact List.forall_mem_cons.mpr ⟨clear.here.dotless _ held, ih (clear.below held)⟩

end Walk

/-- However the members of a chain are spelled, the segments are a walk along them, and it always
comes to the same model. -/
theorem Chain.spelled (chain : Chain c m names members) (clear : c.UnambiguousFrom (some m)) :
    ∃ target, ∀ segments, List.Forall₂ Member.SpelledAs members segments →
      c.Walk (some m) segments members target := by
  have own : ∀ {m : ModelName} {name : String} {member : Member},
      (c m).member? name = some member → (c m).member? member.name = some member := by
    intro m name member found
    rw [(Model.member?_sound found).2, found]
  induction chain with
  | @last m name member found =>
      refine ⟨member.content.nested, fun segments spelled => ?_⟩
      cases spelled with
      | cons one none =>
          cases none
          exact .step (clear.here.lookup?_spelled (own found) one) (.here _)
  | @step m next name member names members found leads rest ih =>
      have below := clear.below (Model.member?_sound found).1
      rw [leads] at below
      obtain ⟨target, walks⟩ := ih below
      refine ⟨target, fun segments spelled => ?_⟩
      cases spelled with
      | cons one others =>
          refine .step (clear.here.lookup?_spelled (own found) one) ?_
          rw [leads]
          exact walks _ others

end Catalog

namespace Schema

variable {c : Catalog} {m : ModelName}

theorem resolveName_idempotent (clear : c.UnambiguousFrom (some m)) {s name : String}
    (found : resolveName c m s = .ok name) : resolveName c m name = .ok name := by
  obtain ⟨-, walked, rest, members, target, same, walk, verbatim, rfl⟩ := resolveName_eq_ok.mp found
  have stored : c.storedNames (some m) (Text.segments s) =
      .ok (members.map Member.storedName ++ rest) :=
    Catalog.storedNames_eq_ok.mpr ⟨walked, rest, members, target, same, walk, verbatim, rfl⟩
  have some : members.map Member.storedName ++ rest ≠ [] := by
    intro none
    rw [none] at stored
    exact Text.segments_ne_nil s (Catalog.storedNames_eq_nil stored)
  have dotless : ∀ name ∈ members.map Member.storedName ++ rest, '.' ∉ name.toList := by
    intro name held
    rcases List.mem_append.mp held with known | left
    · exact walk.storedName_dotless clear name known
    · exact Text.dotless_of_mem_segments (same ▸ List.mem_append_right walked left)
  exact resolveName_eq_ok.mpr ⟨resolveName_ne_empty found, _, rest, members, target,
    Text.segments_dotted some dotless, walk.restored clear, verbatim, rfl⟩

/-- Paths that spell the same members, and go on alike, have the same name or fail for the same
reason. -/
theorem resolveName_spelled (clear : c.UnambiguousFrom (some m)) {names : List String}
    {members : List Member} (chain : c.Chain m names members) {p q : String}
    {first second rest : List String} (given : p ≠ "") (other : q ≠ "")
    (one : Text.segments p = first ++ rest) (two : Text.segments q = second ++ rest)
    (spelled : List.Forall₂ Member.SpelledAs members first)
    (respelled : List.Forall₂ Member.SpelledAs members second) :
    resolveName c m p = resolveName c m q := by
  obtain ⟨target, walks⟩ := chain.spelled clear
  have same : c.storedNames (some m) (first ++ rest) = c.storedNames (some m) (second ++ rest) := by
    rw [(walks first spelled).storedNames, (walks second respelled).storedNames]
  rw [resolveName, if_neg given, resolveName, if_neg other, one, two, serialize, serialize, same]

/-- By a model from which only unambiguous models are reached, every name that comes out of a
resolution resolves to itself, and paths that spell the members of a chain by their own or their
stored names, one by one, and go on alike are resolved alike. -/
theorem resolve_idempotent (c : Catalog) (m : ModelName)
    (clear : ∀ n, c.Reaches m n → (c n).Unambiguous) :
    (∀ s name, resolve c (.modelled m) (.text s) = .ok name →
      resolve c (.modelled m) (.text name.text) = .ok name) ∧
    ∀ names members, c.Chain m names members → ∀ p q first second rest, p ≠ "" → q ≠ "" →
      Text.segments p = first ++ rest → Text.segments q = second ++ rest →
      List.Forall₂ Member.SpelledAs members first → List.Forall₂ Member.SpelledAs members second →
      ∀ name, resolve c (.modelled m) (.text p) = .ok name ↔
        resolve c (.modelled m) (.text q) = .ok name := by
  have everywhere : c.UnambiguousFrom (some m) := by
    rintro n ⟨⟩
    exact clear
  constructor
  · intro s name found
    obtain ⟨stored, resolved, rfl⟩ := resolve_text_eq_ok.mp found
    exact resolve_text_eq_ok.mpr ⟨stored, resolveName_idempotent everywhere resolved, rfl⟩
  · intro names members chain p q first second rest given other one two spelled respelled name
    rw [resolve_text_eq_ok, resolve_text_eq_ok,
      resolveName_spelled everywhere chain given other one two spelled respelled]

end Schema

/-- A folder: a title and folders of its own, each stored under a shorter name, beside whatever else
is kept in it. -/
def folderModel : Declaration :=
  ⟨⟨"models", "Folder"⟩, none, some .allow,
    [⟨"title", .scalar "str", none, some "t", none⟩,
      ⟨"folders", .list (.model ⟨"models", "Folder"⟩), some "sub", none, none⟩]⟩

def folderCatalog : Catalog :=
  Catalog.empty.declare folderModel

theorem folderCatalog_unambiguous (n : ModelName) : (folderCatalog n).Unambiguous := by
  by_cases folder : n = folderModel.name
  · have model : folderCatalog n = Catalog.empty.expand folderModel := if_pos folder
    rw [model]
    refine ⟨by decide, by decide, ?_⟩
    intro member held other there same
    rcases List.mem_pair.mp held with rfl | rfl
    · rcases List.mem_pair.mp there with rfl | rfl
      · rfl
      · exact absurd same (by decide)
    · rcases List.mem_pair.mp there with rfl | rfl
      · exact absurd same (by decide)
      · rfl
  · have model : folderCatalog n = Model.empty := if_neg folder
    rw [model]
    exact ⟨List.nodup_nil, fun _ held => absurd held List.not_mem_nil,
      fun _ held => absurd held List.not_mem_nil⟩

/-- What is undeclared in a folder inside a folder keeps its name when it is resolved again, and a
title is found there by either name of each member on the way. -/
theorem folderCatalog_idempotent :
    Schema.resolve folderCatalog (.modelled folderModel.name) (.text "folders.owner.title") =
        .ok (.plain "sub.owner.title") ∧
      Schema.resolve folderCatalog (.modelled folderModel.name) (.text "sub.owner.title") =
        .ok (.plain "sub.owner.title") ∧
      Schema.resolve folderCatalog (.modelled folderModel.name) (.text "sub.title.en") =
        .ok (.plain "sub.t.en") := by
  obtain ⟨idempotent, alike⟩ := Schema.resolve_idempotent folderCatalog folderModel.name
    (fun n _ => folderCatalog_unambiguous n)
  have chain : folderCatalog.Chain folderModel.name ["folders", "title"]
      [⟨"folders", .list (.model folderModel.name), some "sub", none, none⟩,
        ⟨"title", .scalar "str", none, some "t", none⟩] :=
    .step rfl rfl (.last rfl)
  refine ⟨rfl, idempotent "folders.owner.title" (.plain "sub.owner.title") rfl, ?_⟩
  have mixed := alike _ _ chain "sub.title.en" "folders.t.en" ["sub", "title"] ["folders", "t"] ["en"]
    (by decide) (by decide) rfl rfl (.cons (.inr rfl) (.cons (.inl rfl) .nil))
    (.cons (.inl rfl) (.cons (.inr rfl) .nil))
  exact (mixed (.plain "sub.t.en")).mpr rfl

end SearchQuery
