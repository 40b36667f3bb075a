import SearchQuery.Proofs.Accepted
import SearchQuery.Proofs.Accumulation

/-!
# What factories make is accepted

Factories and methods make their nodes with the constructors, after they have
made queries and paths from what these can be made from, and gone through what
they take in several.  So whatever a program makes with them is accepted.
-/

namespace SearchQuery

namespace Value

/-- The nodes that a constructor finds in a value are accepted. -/
def PartsAccepted (v : Value) : Prop :=
  ∀ m ∈ v.parts, Accepted m

/-- The nodes in a value, and those in its elements, are accepted. -/
structure Accepts (v : Value) : Prop where
  parts : v.PartsAccepted
  elements : ∀ items, v.elements? = some items → ∀ item ∈ items, item.PartsAccepted

variable {v : Value} {n : Node Value} {items : List Value}

theorem partsAccepted_node : (node n).PartsAccepted ↔ Accepted n := by
  constructor
  · intro accepted
    exact accepted n (List.mem_singleton.mpr rfl)
  · intro accepted m part
    rw [List.mem_singleton.mp part]
    exact accepted

theorem partsAccepted_null : null.PartsAccepted :=
  List.forall_mem_nil _

theorem partsAccepted_number {x : Number} : (number x).PartsAccepted :=
  List.forall_mem_nil _

theorem partsAccepted_dict {entries : List (Value × Value)} : (dict entries).PartsAccepted :=
  List.forall_mem_nil _

theorem partsAccepted_ofBound {bound : Option (Bound Value)} : (ofBound bound).PartsAccepted := by
  cases bound with
  | none => exact partsAccepted_null
  | some b => exact partsAccepted_node.mpr (.other id)

theorem partsAccepted_tuple (accepted : ∀ item ∈ items, item.PartsAccepted) :
    (tuple items).PartsAccepted := by
  intro m part
  obtain ⟨item, held, own⟩ := List.mem_filterMap.mp part
  cases item with
  | node n =>
      cases own
      exact partsAccepted_node.mp (accepted _ held)
  | _ => cases own

/-- A value that is no node is accepted with its elements when they are. -/
theorem accepts_items (apart : v.parts = []) (elements : v.elements? = some items)
    (accepted : ∀ item ∈ items, item.PartsAccepted) : v.Accepts where
  parts := by
    rw [PartsAccepted, apart]
    exact List.forall_mem_nil _
  elements found same := by
    rw [elements] at same
    cases same
    exact accepted

theorem accepts_leaf (apart : v.parts = []) (elements : v.elements? = none) : v.Accepts where
  parts := by
    rw [PartsAccepted, apart]
    exact List.forall_mem_nil _
  elements found same := by
    rw [elements] at same
    cases same

theorem accepts_null : null.Accepts :=
  accepts_leaf rfl rfl

/-- The elements of a node are texts, members of an enumeration, or a class of containers. -/
theorem accepts_node (accepted : Accepted n) : (node n).Accepts where
  parts := partsAccepted_node.mpr accepted
  elements items found item held := by
    cases n with
    | code s scope =>
        cases found
        exact List.forall_mem_map.mpr (fun _ _ => List.forall_mem_nil _) item held
    | classNamed tag name =>
        simp only [elements?] at found
        split at found
        · cases found
        · cases found
          exact List.forall_mem_map.mpr (fun _ _ => partsAccepted_node.mpr (.other id)) item held
    | generic a unpacked given =>
        simp only [elements?] at found
        split at found
        · cases found
          cases List.mem_singleton.mp held
          exact partsAccepted_node.mpr (.other id)
        · cases found
    | _ => cases found

theorem Plain.accepts (plain : v.Plain) : v.Accepts := by
  have apart : ∀ n : Node Value, n.Plain → ¬ n.Part := by
    intro n
    cases n <;> simp [Node.Plain, Node.Part]
  have alone : ∀ {α : Type} {wrap : α → Value} {xs : List α} (_ : ∀ x, (wrap x).parts = []),
      ∀ item ∈ xs.map wrap, item.PartsAccepted := by
    intro α wrap xs none
    refine List.forall_mem_map.mpr (fun x _ => ?_)
    rw [PartsAccepted, none]
    exact List.forall_mem_nil _
  cases v with
  | node n => exact accepts_node (.other (apart n plain))
  | text s => exact accepts_items rfl rfl (alone (fun _ => rfl))
  | bytes b => exact accepts_items rfl rfl (alone (fun _ => rfl))
  | special kind =>
      cases kind with
      | binary b subtype => exact accepts_items rfl rfl (alone (fun _ => rfl))
      | _ => exact accepts_leaf rfl rfl
  | _ => first | exact accepts_leaf rfl rfl | cases plain

theorem accepts_tuple (accepted : ∀ item ∈ items, item.PartsAccepted) : (tuple items).Accepts where
  parts := partsAccepted_tuple accepted
  elements found same := by
    cases same
    exact accepted

theorem partsAccepted_toItems (accepts : v.Accepts) (found : v.toItems = .ok items) :
    (tuple items).PartsAccepted := by
  apply partsAccepted_tuple
  unfold toItems at found
  split at found
  · rename_i elements
    cases found
    exact accepts.elements _ elements
  · split at found <;> cases found

end Value

namespace Operator

theorem ofRaw_accepted {document : Value} {op : Operator Value} (made : ofRaw document = .ok op) :
    Accepted (.operator op) := by
  have passed : Constructor.run .raw [document] = .ok (.operator op) :=
    Outcome.map_eq_ok.mpr ⟨op, made, rfl⟩
  cases Constructor.run_builds passed with
  | raw => exact .made .raw _ (List.forall_mem_singleton.mpr Value.partsAccepted_dict) passed

theorem makeRaw_accepted {tag : Nat} {document : Value} {op : Operator Value}
    (made : makeRaw tag document = .ok op) : Accepted (.operator op) := by
  unfold makeRaw rawBy at made
  split at made
  · obtain ⟨v, -, made⟩ := Outcome.bind_eq_ok.mp made
    exact ofRaw_accepted made
  · exact ofRaw_accepted made

end Operator

open Value (accepts_items accepts_leaf accepts_node accepts_null accepts_tuple partsAccepted_node
  partsAccepted_null partsAccepted_number partsAccepted_ofBound partsAccepted_tuple
  partsAccepted_toItems)

theorem Query.coerce_accepted {v : Value} {q : Query} (accepts : v.Accepts)
    (made : Query.coerce v = .ok q) : Accepted (.query q) := by
  unfold coerce at made
  split at made
  · cases made
    exact partsAccepted_node.mp accepts.parts
  · cases made
    exact .made .singleQuery [.text _] (List.forall_mem_singleton.mpr accepts.parts) rfl
  · exact .made .singleQuery [_] (List.forall_mem_singleton.mpr accepts.parts)
      (Outcome.map_eq_ok.mpr ⟨q, made, rfl⟩)
  · cases made
  · split at made
    · rename_i items elements
      have parts := partsAccepted_tuple (accepts.elements _ elements)
      exact .made .multiQuery [.tuple items] (List.forall_mem_singleton.mpr parts)
        (Outcome.map_eq_ok.mpr ⟨q, made, rfl⟩)
    · cases made

theorem Path.coerce_accepted {v : Value} {p : Path} (accepts : v.Accepts)
    (made : Path.coerce v = .ok p) : Accepted (.path p) := by
  have single : ofField v = .ok p → Accepted (.path p) := by
    intro found
    exact .made .singlePath [v] (List.forall_mem_singleton.mpr accepts.parts)
      (Outcome.map_eq_ok.mpr ⟨p, found, rfl⟩)
  unfold coerce at made
  split at made
  · cases made
    exact partsAccepted_node.mp accepts.parts
  · exact single made
  · exact single made
  · exact single made
  · exact single made
  · cases made
  · split at made
    · rename_i items elements
      have parts := partsAccepted_tuple (accepts.elements _ elements)
      exact .made .multiPath [.tuple items] (List.forall_mem_singleton.mpr parts)
        (Outcome.map_eq_ok.mpr ⟨p, made, rfl⟩)
    · cases made

/-- The nodes in several values, and those in their elements, are accepted. -/
def AllAccept (given : List Value) : Prop :=
  ∀ v ∈ given, v.Accepts

theorem AllAccept.parts {given : List Value} (accept : AllAccept given) :
    ∀ v ∈ given, v.PartsAccepted :=
  fun v held => (accept v held).parts

/-- A call that makes a path of its first argument, and gives it to a
constructor with the others, makes a node that is accepted. -/
theorem Accepted.on_path (k : Constructor) {v : Value} {after : List Value} {α : Type}
    {call : Path → Checked α} {wrap : α → Node Value} {n : Node Value}
    (accept : AllAccept (v :: after)) (passes : ∀ p, k.run (.ofPath p :: after) = (call p).map wrap)
    (made : (do let p ← Path.coerce v; call p).map wrap = .ok n) : Accepted n := by
  obtain ⟨a, found, rfl⟩ := Outcome.map_eq_ok.mp made
  obtain ⟨p, path, built⟩ := Outcome.bind_eq_ok.mp found
  obtain ⟨first, -⟩ := List.forall_mem_cons.mp accept
  have own := partsAccepted_node.mpr (Path.coerce_accepted first path)
  refine .made k (.ofPath p :: after) ?_ ((passes p).trans (Outcome.map_eq_ok.mpr ⟨a, built, rfl⟩))
  exact List.forall_mem_cons.mpr ⟨own, (List.forall_mem_cons.mp accept.parts).2⟩

/-- The same for a call that first makes a query. -/
theorem Accepted.on_query (k : Constructor) {u v : Value} {after : List Value} {α : Type}
    {call : Query → Path → Checked α} {wrap : α → Node Value} {n : Node Value}
    (accept : AllAccept (u :: v :: after))
    (passes : ∀ q p, k.run (.ofQuery q :: .ofPath p :: after) = (call q p).map wrap)
    (made : (do let q ← Query.coerce u; let p ← Path.coerce v; call q p).map wrap = .ok n) :
    Accepted n := by
  obtain ⟨a, found, rfl⟩ := Outcome.map_eq_ok.mp made
  obtain ⟨q, query, more⟩ := Outcome.bind_eq_ok.mp found
  obtain ⟨p, path, built⟩ := Outcome.bind_eq_ok.mp more
  obtain ⟨first, rest⟩ := List.forall_mem_cons.mp accept
  obtain ⟨second, others⟩ := List.forall_mem_cons.mp rest
  have ofQuery := partsAccepted_node.mpr (Query.coerce_accepted first query)
  have ofPath := partsAccepted_node.mpr (Path.coerce_accepted second path)
  refine .made k (.ofQuery q :: .ofPath p :: after) ?_
    ((passes q p).trans (Outcome.map_eq_ok.mpr ⟨a, built, rfl⟩))
  simp only [List.forall_mem_cons]
  exact ⟨ofQuery, ofPath, AllAccept.parts others⟩

/-- The same for a call that makes a path of its second argument, and goes
through its third. -/
theorem Accepted.on_boundaries (k : Constructor) {name path bounds outside : Value} {α : Type}
    {call : Path → List Value → Checked α} {wrap : α → Node Value} {n : Node Value}
    (accept : AllAccept [name, path, bounds, outside])
    (passes : ∀ p items, k.run [name, .ofPath p, .tuple items, outside] = (call p items).map wrap)
    (made : (do let p ← Path.coerce path; let items ← bounds.toItems; call p items).map wrap =
      .ok n) : Accepted n := by
  obtain ⟨a, found, rfl⟩ := Outcome.map_eq_ok.mp made
  obtain ⟨p, field, more⟩ := Outcome.bind_eq_ok.mp found
  obtain ⟨items, elements, built⟩ := Outcome.bind_eq_ok.mp more
  simp only [AllAccept, List.forall_mem_cons] at accept
  obtain ⟨ofName, ofPath, ofBounds, ofOutside, none⟩ := accept
  refine .made k [name, .ofPath p, .tuple items, outside] ?_
    ((passes p items).trans (Outcome.map_eq_ok.mpr ⟨a, built, rfl⟩))
  simp only [List.forall_mem_cons]
  exact ⟨ofName.parts, partsAccepted_node.mpr (Path.coerce_accepted ofPath field),
    partsAccepted_toItems ofBounds elements, ofOutside.parts, List.forall_mem_nil _⟩

namespace Accepted

/-- The path and the score of the start of a range are accepted. -/
theorem of_rangeStart {p : Path} {s : Option Score} (accepted : Accepted (.rangeStart p s)) :
    Accepted (.path p) ∧ (Value.ofScore s).PartsAccepted := by
  cases accepted with
  | other apart => exact absurd trivial apart
  | made k given parts passed =>
      cases Constructor.run_builds passed with
      | rangeStart =>
          simp only [List.forall_mem_cons] at parts
          exact ⟨partsAccepted_node.mp parts.1, parts.2.1⟩

/-- The path and the score of a range are accepted. -/
theorem of_range {form : RangeForm} {p : Path} {lower upper : Option (Bound Value)}
    {s : Option Score} (accepted : Accepted (.operator (.range form p lower upper s))) :
    Accepted (.path p) ∧ (Value.ofScore s).PartsAccepted := by
  cases accepted with
  | other apart => exact absurd trivial apart
  | made k given parts passed =>
      cases Constructor.run_builds passed with
      | range =>
          refine ⟨partsAccepted_node.mp (parts _ List.mem_cons_self), parts _ ?_⟩
          simp

/-- The clauses and the score of a compound are accepted, and the number of
clauses that it needs is natural. -/
theorem of_compound {must mustNot should filter : Option (List (Operator Value))} {least : Whole}
    {s : Option Score}
    (accepted : Accepted (.operator (.compound must mustNot should filter least s))) :
    0 ≤ least.value ∧ (Value.ofClauses must).PartsAccepted ∧
      (Value.ofClauses mustNot).PartsAccepted ∧ (Value.ofClauses should).PartsAccepted ∧
        (Value.ofClauses filter).PartsAccepted ∧ (Value.ofScore s).PartsAccepted := by
  cases accepted with
  | other apart => exact absurd trivial apart
  | made k given parts passed =>
      cases Constructor.run_builds passed with
      | compound natural =>
          simp only [List.forall_mem_cons] at parts
          obtain ⟨ofMust, ofMustNot, ofShould, ofFilter, -, ofScore, -⟩ := parts
          exact ⟨natural, ofMust, ofMustNot, ofShould, ofFilter, ofScore⟩

end Accepted

namespace Compound

theorem clauseList_ofClauses (argument : String) (clauses : Option (List (Operator Value))) :
    clauseList argument (.ofClauses clauses) = .ok clauses := by
  cases clauses with
  | none => rfl
  | some ops =>
      have found : Guard.each (Guard.operator argument) (ops.map .ofOperator) = .ok ops :=
        operators_eq_ok.mpr rfl
      exact Outcome.bind_eq_ok.mpr ⟨_, rfl, Outcome.bind_eq_ok.mpr ⟨ops, found, rfl⟩⟩

/-- A compound is accepted when its clauses and its score are. -/
theorem accepted {must mustNot should filter : Option (List (Operator Value))} {least : Whole}
    {s : Option Score} (natural : 0 ≤ least.value) (ofMust : (Value.ofClauses must).PartsAccepted)
    (ofMustNot : (Value.ofClauses mustNot).PartsAccepted)
    (ofShould : (Value.ofClauses should).PartsAccepted)
    (ofFilter : (Value.ofClauses filter).PartsAccepted)
    (ofScore : (Value.ofScore s).PartsAccepted) :
    Accepted (.operator (.compound must mustNot should filter least s)) := by
  have built : build (.ofClauses must) (.ofClauses mustNot) (.ofClauses should) (.ofClauses filter)
      (.whole least) (.ofScore s) = .ok (.compound must mustNot should filter least s) := by
    refine Outcome.bind_eq_ok.mpr ⟨must, clauseList_ofClauses _ _, ?_⟩
    refine Outcome.bind_eq_ok.mpr ⟨mustNot, clauseList_ofClauses _ _, ?_⟩
    refine Outcome.bind_eq_ok.mpr ⟨should, clauseList_ofClauses _ _, ?_⟩
    refine Outcome.bind_eq_ok.mpr ⟨filter, clauseList_ofClauses _ _, ?_⟩
    refine Outcome.bind_eq_ok.mpr ⟨least, naturalInteger_eq_ok.mpr ⟨rfl, natural⟩, ?_⟩
    exact Outcome.bind_eq_ok.mpr ⟨s, Guard.score_eq_ok.mpr rfl, rfl⟩
  have passed : Constructor.run .compound [.ofClauses must, .ofClauses mustNot, .ofClauses should,
      .ofClauses filter, .whole least, .ofScore s] =
        .ok (.operator (.compound must mustNot should filter least s)) := by
    show (build _ _ _ _ _ _).map Node.operator = _
    rw [built]
    rfl
  refine .made .compound _ ?_ passed
  simp only [List.forall_mem_cons]
  exact ⟨ofMust, ofMustNot, ofShould, ofFilter, partsAccepted_number, ofScore,
    List.forall_mem_nil _⟩

/-- The clauses of one call are accepted when what is given is. -/
theorem clauses_accepted {argument : String} {given : List Value} {more : List (Operator Value)}
    (accept : AllAccept given) (passed : clauses argument given = .ok more) :
    ∀ op ∈ more, Accepted (.operator op) := by
  intro op held
  cases clauses_eq_ok.mp passed with
  | arguments some =>
      exact partsAccepted_node.mp (accept.parts _ (List.mem_map_of_mem held))
  | elements some elements =>
      have one := accept _ List.mem_cons_self
      exact partsAccepted_node.mp (one.elements _ elements _ (List.mem_map_of_mem held))

theorem append_accepted {existing : Option (List (Operator Value))} {more : List (Operator Value)}
    (before : (Value.ofClauses existing).PartsAccepted)
    (added : ∀ op ∈ more, Accepted (.operator op)) :
    (Value.ofClauses (append existing more)).PartsAccepted := by
  refine partsAccepted_tuple ?_
  intro item held
  obtain ⟨op, listed, rfl⟩ := List.mem_map.mp held
  refine partsAccepted_node.mpr ?_
  rcases List.mem_append.mp listed with there | new
  · cases existing with
    | none => cases there
    | some ops =>
        exact before _ (List.mem_filterMap.mpr ⟨.ofOperator op, List.mem_map_of_mem there, rfl⟩)
  · exact added op new

/-- A compound with clauses added to one of its lists is accepted when it and
they are: the other lists stay as they are. -/
theorem add_accepted {role : Role} {given : List Value} {op grown : Operator Value}
    (accept : AllAccept given) (before : Accepted (.operator op))
    (made : add role given op = .ok grown) : Accepted (.operator grown) := by
  unfold add at made
  split at made
  · obtain ⟨more, passed, made⟩ := Outcome.bind_eq_ok.mp made
    have added := clauses_accepted accept passed
    obtain ⟨natural, must, mustNot, should, filter, score⟩ := before.of_compound
    cases role with
    | must =>
        cases made
        exact accepted natural (append_accepted must added) mustNot should filter score
    | mustNot =>
        cases made
        exact accepted natural must (append_accepted mustNot added) should filter score
    | should =>
        cases made
        exact accepted natural must mustNot (append_accepted should added) filter score
    | filter =>
        cases made
        exact accepted natural must mustNot should (append_accepted filter added) score
  · cases made
    exact before

theorem atLeast_accepted {minimum : Value} {op changed : Operator Value}
    (before : Accepted (.operator op)) (made : atLeast minimum op = .ok changed) :
    Accepted (.operator changed) := by
  unfold atLeast at made
  split at made
  · obtain ⟨least, passed, made⟩ := Outcome.bind_eq_ok.mp made
    cases made
    obtain ⟨-, must, mustNot, should, filter, score⟩ := before.of_compound
    exact accepted (naturalInteger_eq_ok.mp passed).2 must mustNot should filter score
  · cases made
    exact before

end Compound

namespace Range

variable {path : Path} {score : Option Score} {side : Side} {value : Value} {op : Operator Value}

/-- A range is accepted when its path and its score are. -/
theorem build_accepted {form : RangeForm} {lower upper : Value} (ofPath : Accepted (.path path))
    (ofScore : (Value.ofScore score).PartsAccepted) (ofLower : lower.PartsAccepted)
    (ofUpper : upper.PartsAccepted)
    (made : build form (.ofPath path) lower upper (.ofScore score) = .ok op) :
    Accepted (.operator op) := by
  refine .made (.range form) [.ofPath path, lower, upper, .ofScore score] ?_
    (Outcome.map_eq_ok.mpr ⟨op, made, rfl⟩)
  simp only [List.forall_mem_cons]
  exact ⟨partsAccepted_node.mpr ofPath, ofLower, ofUpper, ofScore, List.forall_mem_nil _⟩

theorem boundValue_accepted {inclusive : Bool} : (boundValue value inclusive).PartsAccepted :=
  partsAccepted_node.mpr (.other id)

theorem first_accepted (accepted : Accepted (.rangeStart path score))
    (made : first ⟨path, score⟩ side value = .ok op) : Accepted (.operator op) := by
  obtain ⟨ofPath, ofScore⟩ := accepted.of_rangeStart
  cases side with
  | lower inclusive =>
      exact build_accepted ofPath ofScore boundValue_accepted partsAccepted_null made
  | upper inclusive =>
      exact build_accepted ofPath ofScore partsAccepted_null boundValue_accepted made

theorem second?_accepted {form : RangeForm} {lower upper : Option (Bound Value)}
    (accepted : Accepted (.operator (.range form path lower upper score)))
    (made : second? form path lower upper score side value = some (.ok op)) :
    Accepted (.operator op) := by
  obtain ⟨ofPath, ofScore⟩ := accepted.of_range
  unfold second? at made
  split at made
  · exact build_accepted ofPath ofScore partsAccepted_ofBound boundValue_accepted
      (Option.some.inj made)
  · exact build_accepted ofPath ofScore boundValue_accepted partsAccepted_ofBound
      (Option.some.inj made)
  · cases made

end Range

namespace Factory

variable {given : List Value} {n : Node Value}

theorem bounded_accepted {side : Range.Side} {v range : Value} (accepts : range.PartsAccepted)
    (made : bounded side v range = .ok n) : Accepted n := by
  unfold bounded at made
  split at made
  · obtain ⟨op, found, rfl⟩ := Outcome.map_eq_ok.mp made
    exact Range.first_accepted (partsAccepted_node.mp accepts) found
  · split at made
    · rename_i outcome second
      obtain ⟨op, found, rfl⟩ := Outcome.map_eq_ok.mp made
      exact Range.second?_accepted (partsAccepted_node.mp accepts) (found ▸ second)
    · cases made
  · cases made

theorem changed_accepted {change : Operator Value → Checked (Operator Value)} {v : Value}
    (accepts : v.PartsAccepted)
    (kept : ∀ op grown, Accepted (.operator op) → change op = .ok grown →
      Accepted (.operator grown))
    (made : changed change v = .ok n) : Accepted n := by
  unfold changed at made
  split at made
  · obtain ⟨op, found, rfl⟩ := Outcome.map_eq_ok.mp made
    exact kept _ _ (partsAccepted_node.mp accepts) found
  · cases made

/-- What a factory gives for values whose nodes are accepted is accepted. -/
theorem run_accepted {f : Factory} (accept : AllAccept given) (made : f.run given = .ok n) :
    Accepted n := by
  have own : ∀ k : Constructor, k.run given = .ok n → Accepted n := by
    intro k passed
    exact .made k given accept.parts passed
  have spread : ∀ k : Constructor, k.run [.tuple given] = .ok n → Accepted n := by
    intro k passed
    exact .made k _ (List.forall_mem_singleton.mpr (partsAccepted_tuple accept.parts)) passed
  cases f with
  | singleQuery => exact own .singleQuery made
  | multiQuery => exact own .multiQuery made
  | query =>
      obtain ⟨a, rfl, made⟩ := one_eq_ok made
      obtain ⟨q, found, rfl⟩ := Outcome.map_eq_ok.mp made
      exact Query.coerce_accepted (accept a List.mem_cons_self) found
  | singlePath => exact own .singlePath made
  | multiPath => exact own .multiPath made
  | analyzer => exact own .analyzerPath made
  | wildcardPath => exact own .wildcardPath made
  | path =>
      obtain ⟨a, rfl, made⟩ := one_eq_ok made
      obtain ⟨p, found, rfl⟩ := Outcome.map_eq_ok.mp made
      exact Path.coerce_accepted (accept a List.mem_cons_self) found
  | fuzzy => exact own .fuzzy made
  | count => exact own .count made
  | highlight => exact own .highlight made
  | highlights =>
      obtain ⟨a, b, c, rfl, made⟩ := three_eq_ok made
      exact .on_path .highlight accept (fun _ => rfl) made
  | point => exact own .point made
  | box => exact own .box made
  | circle => exact own .circle made
  | pathValue =>
      obtain ⟨a, b, rfl, made⟩ := two_eq_ok made
      exact .on_path .pathFunction accept (fun _ => rfl) made
  | relevance => exact own .relevance made
  | constantValue => exact own .constantFunction made
  | add => exact spread (.combined .sum) made
  | multiply => exact spread (.combined .product) made
  | gauss =>
      obtain ⟨a, b, c, d, e, rfl, made⟩ := five_eq_ok made
      exact .on_path .gauss accept (fun _ => rfl) made
  | log => exact own (.transformed .log) made
  | log1p => exact own (.transformed .log1p) made
  | boost => exact own .boost made
  | boostPath =>
      obtain ⟨a, b, rfl, made⟩ := two_eq_ok made
      exact .on_path .boostPath accept (fun _ => rfl) made
  | constant => exact own .constant made
  | function => exact own .function made
  | spanTerm =>
      obtain ⟨a, b, rfl, made⟩ := two_eq_ok made
      exact .on_query .spanTerm accept (fun _ _ => rfl) made
  | spanFirst => exact own .spanFirst made
  | spanNear =>
      obtain ⟨a, b, c, rfl, made⟩ := three_eq_ok made
      obtain ⟨s, found, rfl⟩ := Outcome.map_eq_ok.mp made
      obtain ⟨items, elements, built⟩ := Outcome.bind_eq_ok.mp found
      obtain ⟨first, rest⟩ := List.forall_mem_cons.mp accept
      refine .made .spanNear (.tuple items :: [b, c]) ?_ (Outcome.map_eq_ok.mpr ⟨s, built, rfl⟩)
      exact List.forall_mem_cons.mpr ⟨partsAccepted_toItems first elements, AllAccept.parts rest⟩
  | spanOr => exact spread .spanOr made
  | spanSubtract => exact own .spanSubtract made
  | text =>
      obtain ⟨a, b, c, d, rfl, made⟩ := four_eq_ok made
      exact .on_query .text accept (fun _ _ => rfl) made
  | phrase =>
      obtain ⟨a, b, c, d, rfl, made⟩ := four_eq_ok made
      exact .on_query .phrase accept (fun _ _ => rfl) made
  | autocomplete =>
      obtain ⟨a, b, c, d, e, rfl, made⟩ := five_eq_ok made
      exact .on_query .autocomplete accept (fun _ _ => rfl) made
  | wildcard =>
      obtain ⟨a, b, c, d, rfl, made⟩ := four_eq_ok made
      exact .on_query (.pattern .wildcard) accept (fun _ _ => rfl) made
  | regex =>
      obtain ⟨a, b, c, d, rfl, made⟩ := four_eq_ok made
      exact .on_query (.pattern .regex) accept (fun _ _ => rfl) made
  | queryString => exact own .queryString made
  | equals => exact own .equals made
  | existence => exact own .existence made
  | near =>
      obtain ⟨a, b, c, d, rfl, made⟩ := four_eq_ok made
      exact .on_path .near accept (fun _ => rfl) made
  | geoWithin =>
      obtain ⟨a, b, c, rfl, made⟩ := three_eq_ok made
      have padded : AllAccept [a, b, .null, .null, c] := by
        simpa [AllAccept, accepts_null] using accept
      exact .on_path .geoWithin padded (fun _ => rfl) made
  | geoWithinBox =>
      obtain ⟨a, b, c, rfl, made⟩ := three_eq_ok made
      have padded : AllAccept [a, .null, b, .null, c] := by
        simpa [AllAccept, accepts_null] using accept
      exact .on_path .geoWithin padded (fun _ => rfl) made
  | geoWithinCircle =>
      obtain ⟨a, b, c, rfl, made⟩ := three_eq_ok made
      have padded : AllAccept [a, .null, .null, b, c] := by
        simpa [AllAccept, accepts_null] using accept
      exact .on_path .geoWithin padded (fun _ => rfl) made
  | geoShape =>
      obtain ⟨a, b, c, d, rfl, made⟩ := four_eq_ok made
      exact .on_path .geoShape accept (fun _ => rfl) made
  | span => exact own .span made
  | facet =>
      obtain ⟨a, rest, rfl, made⟩ := first_eq_ok made
      obtain ⟨definition, facets⟩ := List.forall_mem_cons.mp accept
      refine .made .facet [a, .tuple rest] ?_ made
      simp only [List.forall_mem_cons]
      exact ⟨definition.parts, partsAccepted_tuple (AllAccept.parts facets), List.forall_mem_nil _⟩
  | raw tag =>
      obtain ⟨a, rfl, made⟩ := one_eq_ok made
      obtain ⟨op, found, rfl⟩ := Outcome.map_eq_ok.mp made
      exact Operator.makeRaw_accepted found
  | range =>
      obtain ⟨a, b, rfl, made⟩ := two_eq_ok made
      exact .on_path .rangeStart accept (fun _ => rfl) made
  | bound side =>
      obtain ⟨a, b, rfl, made⟩ := two_eq_ok made
      exact bounded_accepted (accept.parts a List.mem_cons_self) made
  | compound =>
      obtain ⟨a, rfl, made⟩ := one_eq_ok made
      refine .made .compound [.null, .null, .null, .null, .int 0, a] ?_ made
      simp only [List.forall_mem_cons]
      exact ⟨partsAccepted_null, partsAccepted_null, partsAccepted_null, partsAccepted_null,
        partsAccepted_number, accept.parts a List.mem_cons_self, List.forall_mem_nil _⟩
  | clauses role =>
      obtain ⟨a, rest, rfl, made⟩ := first_eq_ok made
      obtain ⟨first, others⟩ := List.forall_mem_cons.mp accept
      exact changed_accepted first.parts
        (fun _ _ accepted grown => Compound.add_accepted others accepted grown) made
  | atLeast =>
      obtain ⟨a, b, rfl, made⟩ := two_eq_ok made
      exact changed_accepted (accept.parts a List.mem_cons_self)
        (fun _ _ accepted changed => Compound.atLeast_accepted accepted changed) made
  | stringFacet =>
      obtain ⟨a, b, c, rfl, made⟩ := three_eq_ok made
      obtain ⟨facet, found, rfl⟩ := Outcome.map_eq_ok.mp made
      obtain ⟨p, path, built⟩ := Outcome.bind_eq_ok.mp found
      simp only [AllAccept, List.forall_mem_cons] at accept
      obtain ⟨name, field, buckets, none⟩ := accept
      refine .made .stringFacet [a, .ofPath p, c] ?_ (Outcome.map_eq_ok.mpr ⟨facet, built, rfl⟩)
      simp only [List.forall_mem_cons]
      exact ⟨name.parts, partsAccepted_node.mpr (Path.coerce_accepted field path), buckets.parts,
        List.forall_mem_nil _⟩
  | numberFacet =>
      obtain ⟨a, b, c, d, rfl, made⟩ := four_eq_ok made
      exact .on_boundaries .numberFacet accept (fun _ _ => rfl) made
  | dateFacet =>
      obtain ⟨a, b, c, d, rfl, made⟩ := four_eq_ok made
      exact .on_boundaries .dateFacet accept (fun _ _ => rfl) made

end Factory

namespace Made

/-- The nodes in a value that a program makes, and in its elements, are accepted. -/
theorem accepts {v : Value} (made : Made v) : v.Accepts := by
  -- Factories also go through what they are given, so that the nodes in it are
  -- accepted is not enough to carry the induction: those in its elements are, too.
  induction made with
  | plain plain => exact plain.accepts
  | list _ ih => exact accepts_items rfl rfl (fun v held => (ih v held).parts)
  | tuple _ ih => exact accepts_tuple (fun v held => (ih v held).parts)
  | set _ ih => exact accepts_items rfl rfl (fun v held => (ih v held).parts)
  | stream tag _ ih => exact accepts_items rfl rfl (fun v held => (ih v held).parts)
  | dict _ _ keys _ =>
      exact accepts_items rfl rfl
        (List.forall_mem_map.mpr (fun entry listed => (keys entry listed).parts))
  | shape => exact accepts_leaf rfl rfl
  | reference => exact accepts_node (.other id)
  | bound => exact accepts_node (.other id)
  | bundle => exact accepts_node (.other id)
  | code => exact accepts_node (.other id)
  | pointer => exact accepts_node (.other id)
  | built f given _ passed ih => exact accepts_node (Factory.run_accepted ih passed)

/-- A definition that a program makes is accepted. -/
theorem accepted {n : Node Value} (made : Made (.node n)) : Accepted n :=
  partsAccepted_node.mp made.accepts.parts

end Made

end SearchQuery
