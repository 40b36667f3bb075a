import SearchQuery.Proofs.Runs

/-!
# Targets

A target names a module and a chain of names.  The chain is walked from object
to object; what is found at its end is called, if it can be called, or is taken
for a schema.  Each of these steps may fail, and a failure is told in one line
or it is not.
-/

namespace SearchQuery

open Outcome (FailsAs)

/-! ## Texts in one line -/

namespace Text

/-- A text in one line. -/
def Unbroken (s : String) : Prop :=
  '\n' ∉ s.toList

instance (s : String) : Decidable (Unbroken s) :=
  inferInstanceAs (Decidable (¬ _))

theorem unbroken_append {a b : String} : Unbroken (a ++ b) ↔ Unbroken a ∧ Unbroken b := by
  simp [Unbroken, String.toList_append]

theorem Unbroken.append {a b : String} (first : Unbroken a) (last : Unbroken b) :
    Unbroken (a ++ b) :=
  unbroken_append.mpr ⟨first, last⟩

end Text

open Text (Unbroken)

/-- A fault that is reported in one line. -/
def Fault.Told (f : Fault Value) : Prop :=
  CommandLine.RenderError.isReported f = true ∧ Unbroken f.message

namespace CommandLine

namespace RenderError

/-- An error that is reported in one line. -/
def Told (e : RenderError) : Prop :=
  ∃ message, e.message? = some message ∧ Unbroken message

end RenderError

end CommandLine

/-! ## Walks -/

namespace Found

/-- Along a chain of names each object has the next one under the next name. -/
inductive Reaches (w : Workspace) (c : Catalog) : Found → List String → Found → Prop where
  | here (found : Found) : Reaches w c found [] found
  | step {found next last : Found} {name : String} {rest : List String}
      (has : found.part w c name = .ok (some next)) (more : Reaches w c next rest last) :
      Reaches w c found (name :: rest) last

variable {w : Workspace} {c : Catalog} {found last : Found} {names : List String}

theorem follow_eq_some_iff :
    found.follow w c names = .ok (some last) ↔ found.Reaches w c names last := by
  constructor
  · intro followed
    induction names generalizing found with
    | nil =>
        cases followed
        exact .here _
    | cons name rest ih =>
        obtain ⟨next?, has, later⟩ := Outcome.bind_eq_ok.mp followed
        cases next? with
        | none => cases later
        | some next => exact .step has (ih later)
  · intro reached
    induction reached with
    | here found => rfl
    | step has more ih => exact Outcome.bind_eq_ok.mpr ⟨_, has, ih⟩

end Found

namespace CommandLine

/-- A target leads to an object when its module is loaded and the object is reached from it. -/
inductive Leads (w : Workspace) (c : Catalog) (target : String) (found : Found) : Prop where
  | along {t : Target} {m : Module} (read : Target.ofText? target = some t)
      (absolute : t.isRelative = false) (loaded : w.load t.home = .ok m)
      (reached : (Found.home m).Reaches w c (Text.segments t.chain) found)

/-- A target strays when it is relative to another module, or when an object on the way fails to be
asked for the next name and the failure is not told. -/
inductive Strays (w : Workspace) (c : Catalog) (target : String) : Prop where
  | relative {t : Target} (read : Target.ofText? target = some t) (relative : t.isRelative = true)
  | step {t : Target} {m : Module} {walked rest : List String} {name : String} {found : Found}
      {fault : Fault Value} (read : Target.ofText? target = some t)
      (absolute : t.isRelative = false) (loaded : w.load t.home = .ok m)
      (split : Text.segments t.chain = walked ++ name :: rest)
      (reached : (Found.home m).Reaches w c walked found)
      (failed : found.part w c name = .error fault) (untold : ¬ fault.Told)

section

variable {w : Workspace} {c : Catalog} {target : String} {found : Found}

theorem sought_eq_ok_iff : sought w target c = .ok found ↔ Leads w c target found := by
  constructor
  · intro sought
    unfold CommandLine.sought at sought
    split at sought
    · cases sought
    · rename_i t read
      split at sought
      · cases sought
      · rename_i absolute
        split at sought
        · cases sought
        · rename_i m loaded
          split at sought
          · cases sought
          · cases sought
          · rename_i reached walk
            cases sought
            exact .along read (by simpa using absolute) loaded (Found.follow_eq_some_iff.mp walk)
  · rintro ⟨read, absolute, loaded, reached⟩
    simp only [sought, read, absolute, loaded, Found.follow_eq_some_iff.mpr reached]
    rfl

end

end CommandLine

/-! ## Calls of the library -/

/-- Whether a callable can be called without arguments: it asks for none, and it is no kind of a
family, which has no values of its own. -/
def Callable.takesNothing (f : Callable) : Bool :=
  (f.signature.bind? [] []).isSome && !Kind.families.contains f.name && f.name != "Schema"

/-- What a call without arguments does: it is refused, or fails at most in a way that is told. -/
def Callable.Settled (f : Callable) : Prop :=
  ∀ s, if f.takesNothing then FailsAs Fault.Told (f.call [] [] s).1
    else (f.call [] [] s).1 = .error (.refused .wrongType)

namespace Library

/-- Whether a name can be called without arguments. -/
def takesNothing (name : String) : Bool :=
  match callable? name with
  | some f => f.takesNothing
  | none => plainKinds.contains name && name != "datetime"

end Library

/-! ## Calls of what is found -/

namespace Method

end Method

/-- Values that the library does not call, and that are no operators. -/
def Value.Uncalled : Value → Prop
  | .node (.operation _) => False
  | .node (.classNamed ..) => False
  | .node (.model _) => False
  | .node (.operator _) => False
  | _ => True

namespace Found

/-- A call of an object without arguments fails, and the failure is not told. -/
inductive Refuses (w : Workspace) (s : Session) : Found → Prop where
  | function {name : String} (asks : Library.takesNothing name = false) :
      Refuses w s (.value (.node (.operation name)))
  | kind {home name : String} (asks : Library.takesNothing name = false) :
      Refuses w s (.value (.node (.classNamed home name)))
  | base : Refuses w s (.value (.node (.model .base)))
  | document {m : ModelName} (members : (s.catalog m).members ≠ []) :
      Refuses w s (.value (.node (.model m)))
  | value {v : Value} {fault : Fault Value} (uncalled : v.Uncalled)
      (failed : w.language.called v = some (.error fault)) (untold : ¬ fault.Told) :
      Refuses w s (.value v)
  | factory {e : Expr} {fault : Fault Value} (failed : (e.eval s).1 = .error fault)
      (untold : ¬ fault.Told) : Refuses w s (.factory e)
  | method {v : Value} {name : String} {fault : Fault Value}
      (failed : (Method.apply v name [] [] s).1 = .error fault) (untold : ¬ fault.Told) :
      Refuses w s (.method v name)
  | unapplied (name : String) : Refuses w s (.unapplied name)
  | native {kind : String} {fault : Fault Value} {held : List Value} (untold : ¬ fault.Told) :
      Refuses w s (.native kind (some (.error fault)) held)

variable {w : Workspace} {s : Session}

end Found

/-! ## Schemas -/

namespace CommandLine

/-- An object counts as a schema: as itself, or because it offers the name of the operation, and
then it is of no use. -/
inductive CountsAs (w : Workspace) (c : Catalog) (found : Found) : Schema → Prop where
  | itself {v : Value} {sc : Schema} (own : schemaValue? found = some v)
      (stands : Schema.coerce c v = .ok sc) : CountsAs w c found sc
  | offering {next : Found} (other : schemaValue? found = none)
      (has : found.part w c "resolve" = .ok (some next)) (proper : next ≠ .value .null) :
      CountsAs w c found .unusable

section

variable {w : Workspace} {c : Catalog} {found : Found}

theorem schemaOf_eq_ok_iff {sc : Schema} :
    (∃ v, schemaOf w c found = .ok v ∧ Schema.coerce c v = .ok sc) ↔ CountsAs w c found sc := by
  constructor
  · rintro ⟨v, taken, stands⟩
    unfold schemaOf at taken
    split at taken
    · rename_i own
      cases taken
      exact .itself own stands
    · rename_i other
      obtain ⟨next?, has, taken⟩ := Outcome.bind_eq_ok.mp taken
      split at taken
      · cases taken
      · cases taken
      · rename_i next proper
        cases taken
        cases stands
        exact .offering other has (fun same => proper (by rw [same]))
  · rintro (⟨own, stands⟩ | ⟨other, has, proper⟩)
    · refine ⟨_, ?_, stands⟩
      unfold schemaOf
      rw [own]
    · refine ⟨.node (.schema .unusable 0), ?_, rfl⟩
      unfold schemaOf
      rw [other]
      refine Outcome.bind_eq_ok.mpr ⟨_, has, ?_⟩
      split
      · rename_i absent
        cases absent
      · rename_i null
        cases null
        exact absurd rfl proper
      · rfl

end

end CommandLine

end SearchQuery
