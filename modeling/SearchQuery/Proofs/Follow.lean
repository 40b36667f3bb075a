import SearchQuery.Proofs.DocumentOrder

/-!
# Documents follow their demands

A document is written when every demand of its definition is met, and it is
then the document of the definition with its fields renamed, written without a
schema.  Otherwise the fault of the first demand that is not met is its fault.
Every writer is shown to have this property from the writers of its parts.
-/

namespace SearchQuery

/-- A writer that looks into a schema and one that does not follow demands when
they agree as soon as all demands are met, and the first of them otherwise
stops at the first demand that is not met. -/
def Follows {α : Type} (resolve : Resolver) (demands : List Demand)
    (write renamed : Except (Fault Value) α) : Prop :=
  match Demand.meetAll resolve demands with
  | .ok _ => ∃ a, write = .ok a ∧ renamed = .ok a
  | .error fault => write = .error fault

namespace Demand

theorem meetAll_append (resolve : Resolver) (first second : List Demand) :
    meetAll resolve (first ++ second) =
      (meetAll resolve first).bind (fun _ => meetAll resolve second) := by
  induction first with
  | nil => rfl
  | cons demand rest ih =>
      show (demand.meet resolve).bind (fun _ => meetAll resolve (rest ++ second)) = _
      rw [ih]
      show _ = ((demand.meet resolve).bind (fun _ => meetAll resolve rest)).bind _
      cases demand.meet resolve <;> rfl

end Demand

namespace Follows

variable {α β : Type} {resolve : Resolver}

/-- What asks for nothing is written as it is. -/
theorem done (a : α) : Follows resolve [] (pure a) (pure a) :=
  ⟨a, rfl, rfl⟩

/-- One writer after another follows the demands of the first, then those of
the second. -/
theorem bind {first second : List Demand} {write renamed : Except (Fault Value) α}
    {next nextRenamed : α → Except (Fault Value) β}
    (now : Follows resolve first write renamed)
    (later : ∀ a, Follows resolve second (next a) (nextRenamed a)) :
    Follows resolve (first ++ second) (write >>= next) (renamed >>= nextRenamed) := by
  unfold Follows at now ⊢
  rw [Demand.meetAll_append]
  cases met : Demand.meetAll resolve first with
  | error fault =>
      rw [met] at now
      rw [show write = .error fault from now]
      rfl
  | ok done =>
      rw [met] at now
      obtain ⟨a, written, same⟩ := now
      rw [written, same]
      exact later a

/-- What comes after a writer and asks for nothing more adds no demand. -/
theorem last {demands : List Demand} {write renamed : Except (Fault Value) α}
    {next nextRenamed : α → Except (Fault Value) β}
    (now : Follows resolve demands write renamed)
    (later : ∀ a, Follows resolve [] (next a) (nextRenamed a)) :
    Follows resolve demands (write >>= next) (renamed >>= nextRenamed) := by
  have both := now.bind later
  rwa [List.append_nil] at both

/-- A writer whose result is only wrapped follows the same demands. -/
theorem wrap {demands : List Demand} {write renamed : Except (Fault Value) α}
    (now : Follows resolve demands write renamed) (f : α → β) :
    Follows resolve demands (write >>= fun a => pure (f a)) (renamed >>= fun a => pure (f a)) :=
  now.last (fun a => done (f a))

/-- A resolved field follows the demand for its name. -/
theorem name (resolve : Resolver) (c : Catalog) (field : Field) :
    Follows resolve [.name field] (resolve field)
      (Schema.untyped.resolver c (.name (resolve.chosen field))) := by
  unfold Follows
  cases found : resolve field with
  | error fault =>
      have refused : Demand.meetAll resolve [.name field] = .error fault := by
        simp only [Demand.meetAll, Demand.meet, found]
        rfl
      rw [refused]
  | ok name =>
      have met : Demand.meetAll resolve [.name field] = .ok () := by
        simp only [Demand.meetAll, Demand.meet, found]
        rfl
      rw [met]
      exact ⟨name, rfl, by simp only [Resolver.chosen, found]; rfl⟩

/-- What needs no name follows the demand that it makes itself. -/
theorem alone {demand : Demand} {write : Except (Fault Value) α}
    (meets : demand.meet resolve = write.map (fun _ => ())) :
    Follows resolve [demand] write write := by
  unfold Follows
  cases write with
  | error fault =>
      have refused : Demand.meetAll resolve [demand] = .error fault := by
        simp only [Demand.meetAll, meets]
        rfl
      rw [refused]
  | ok a =>
      have met : Demand.meetAll resolve [demand] = .ok () := by
        simp only [Demand.meetAll, meets]
        rfl
      rw [met]
      exact ⟨a, rfl, rfl⟩

/-- What is written is written with all demands met, and by both writers. -/
theorem met {demands : List Demand} {write renamed : Except (Fault Value) α} {a : α}
    (follows : Follows resolve demands write renamed) (written : write = .ok a) :
    Demand.meetAll resolve demands = .ok () ∧ renamed = .ok a := by
  unfold Follows at follows
  cases met : Demand.meetAll resolve demands with
  | error fault =>
      rw [met, written] at follows
      cases follows
  | ok done =>
      rw [met] at follows
      obtain ⟨b, found, same⟩ := follows
      rw [written] at found
      exact ⟨rfl, same.trans found.symm⟩

/-- With all demands met something is written. -/
theorem written {demands : List Demand} {write renamed : Except (Fault Value) α}
    (follows : Follows resolve demands write renamed)
    (met : Demand.meetAll resolve demands = .ok ()) : ∃ a, write = .ok a := by
  unfold Follows at follows
  rw [met] at follows
  obtain ⟨a, found, -⟩ := follows
  exact ⟨a, found⟩

/-- A writer that stops has stopped at a demand. -/
theorem stopped {demands : List Demand} {write renamed : Except (Fault Value) α}
    {fault : Fault Value} (follows : Follows resolve demands write renamed)
    (refused : write = .error fault) : Demand.meetAll resolve demands = .error fault := by
  unfold Follows at follows
  cases met : Demand.meetAll resolve demands with
  | ok done =>
      rw [met, refused] at follows
      obtain ⟨a, found, -⟩ := follows
      cases found
  | error first =>
      rw [met, refused] at follows
      exact (congrArg Except.error (Except.error.inj follows)).symm

end Follows

section

variable (resolve : Resolver) (c : Catalog)

namespace Path

theorem resolveAll_follows (fields : List Field) :
    Follows resolve (fields.map .name) (resolveAll resolve fields)
      (resolveAll (Schema.untyped.resolver c)
        (fields.map (fun field => .name (resolve.chosen field)))) := by
  induction fields with
  | nil => exact .done []
  | cons field rest ih =>
      exact (Follows.name resolve c field).bind (fun name => ih.wrap _)

/-- The document of a path follows the demands for its fields. -/
theorem render_follows (p : Path) :
    Follows resolve p.demands (p.render resolve)
      ((p.rename resolve.chosen).render (Schema.untyped.resolver c)) := by
  cases p with
  | single field => exact (Follows.name resolve c field).wrap _
  | many fields => exact (resolveAll_follows resolve c fields).wrap _
  | analyzed field analyzer => exact (Follows.name resolve c field).wrap _
  | wildcard pattern => exact .done _

end Path

namespace ScoreFunction

mutual

/-- The document of an expression follows the demands of its parts. -/
theorem render_follows (f : ScoreFunction) :
    Follows resolve f.demands (f.render resolve)
      ((f.rename resolve.chosen).render (Schema.untyped.resolver c)) := by
  cases f with
  | path p undefined =>
      refine (p.render_follows resolve c).last (fun name => ?_)
      split
      · exact .done _
      · exact .done _
  | relevance => exact .done _
  | constant value => exact .done _
  | combined way children => exact (renderAll_follows children).wrap _
  | gauss p origin scale decay offset => exact (p.render_follows resolve c).wrap _
  | transformed way child => exact (render_follows child).wrap _

/-- The documents of several expressions follow their demands. -/
theorem renderAll_follows (children : List ScoreFunction) :
    Follows resolve (allDemands children) (renderAll resolve children)
      (renderAll (Schema.untyped.resolver c) (renameAll resolve.chosen children)) := by
  cases children with
  | nil => exact .done []
  | cons child rest =>
      exact (render_follows child).bind
        (fun document => (renderAll_follows rest).wrap _)

end

end ScoreFunction

namespace Score

/-- The document of a score follows the demands of its path or its expression. -/
theorem render_follows (score : Score) :
    Follows resolve score.demands (score.render resolve)
      ((score.rename resolve.chosen).render (Schema.untyped.resolver c)) := by
  cases score with
  | boost value => exact .done _
  | boostPath p undefined => exact (p.render_follows resolve c).wrap _
  | constant value => exact .done _
  | function expression => exact (expression.render_follows resolve c).wrap _

/-- The score entry of a body follows the demands of the score, if there is one. -/
theorem entries_follow (score : Option Score) :
    Follows resolve (entryDemands score) (entries resolve score)
      (entries (Schema.untyped.resolver c) (score.map (rename resolve.chosen))) := by
  cases score with
  | none => exact .done []
  | some score => exact (score.render_follows resolve c).wrap _

end Score

namespace Span

mutual

/-- The document of a span follows the demands of its parts. -/
theorem render_follows (s : Span) :
    Follows resolve s.demands (s.render resolve)
      ((s.rename resolve.chosen).render (Schema.untyped.resolver c)) := by
  cases s with
  | term query path => exact (path.render_follows resolve c).wrap _
  | first operator endPosition => exact (render_follows operator).wrap _
  | near clauses slop inOrder => exact (renderAll_follows clauses).wrap _
  | either clauses => exact (renderAll_follows clauses).wrap _
  | subtract kept removed =>
      exact (render_follows kept).bind (fun included => (render_follows removed).wrap _)

/-- The documents of several spans follow their demands. -/
theorem renderAll_follows (clauses : List Span) :
    Follows resolve (allDemands clauses) (renderAll resolve clauses)
      (renderAll (Schema.untyped.resolver c) (renameAll resolve.chosen clauses)) := by
  cases clauses with
  | nil => exact .done []
  | cons clause rest =>
      exact (render_follows clause).bind (fun document => (renderAll_follows rest).wrap _)

end

end Span

namespace Facet

/-- The document of a facet follows the demands of its path. -/
theorem render_follows (facet : Facet) :
    Follows resolve facet.path.demands (facet.render resolve)
      ((facet.rename resolve.chosen).render (Schema.untyped.resolver c)) := by
  cases facet with
  | string name path buckets => exact (path.render_follows resolve c).wrap _
  | number name path boundaries outside => exact (path.render_follows resolve c).wrap _
  | date name path boundaries outside => exact (path.render_follows resolve c).wrap _

theorem name_rename (names : Field → Words) (facet : Facet) :
    (facet.rename names).name = facet.name := by
  cases facet <;> rfl

/-- The documents of several facets follow their demands. -/
theorem renderAll_follows (facets : List Facet) :
    Follows resolve (allDemands facets) (renderAll resolve facets)
      (renderAll (Schema.untyped.resolver c) (facets.map (rename resolve.chosen))) := by
  induction facets with
  | nil => exact .done []
  | cons facet rest ih =>
      rw [List.map_cons]
      unfold renderAll
      rw [name_rename]
      exact (facet.render_follows resolve c).bind (fun document => ih.wrap _)

end Facet

/-- A geometry follows the demand for it, and nothing in it is renamed. -/
theorem Geometry.render_follows (argument : String) (allowed : List String)
    (g : Geometry Value) :
    Follows resolve [.geometry argument allowed g] (g.render argument allowed)
      (g.render argument allowed) :=
  .alone (by cases found : g.render argument allowed <;> simp only [Demand.meet, found] <;> rfl)

/-- The entry of an area follows the demands for its geometries. -/
theorem Area.entry_follows (area : Area Value) :
    Follows resolve area.demands area.entry area.entry := by
  cases area with
  | geometry g => exact (g.render_follows resolve "geometry" polygonTypes).wrap _
  | box b =>
      have corners := (b.bottomLeft.render_follows resolve "bottom_left" ["Point"]).bind
        (fun low => (b.topRight.render_follows resolve "top_right" ["Point"]).wrap
          (fun high => Value.object [("bottomLeft", low), ("topRight", high)]))
      exact Follows.wrap corners _
  | circle k =>
      have middle := (k.center.render_follows resolve "center" ["Point"]).wrap
        (fun center => Value.object [("center", center), ("radius", .number k.radius)])
      exact Follows.wrap middle _

namespace Operator

mutual

/-- The document of an operator follows the demands of its parts, those of its
score last. -/
theorem render_follows (op : Operator Value) :
    Follows resolve op.demands (op.render resolve)
      ((op.rename resolve.chosen).render (Schema.untyped.resolver c)) := by
  cases op with
  | text query p fuzzy score =>
      exact (p.render_follows resolve c).bind (fun _ => (Score.entries_follow resolve c score).wrap _)
  | phrase query p slop score =>
      exact (p.render_follows resolve c).bind (fun _ => (Score.entries_follow resolve c score).wrap _)
  | autocomplete query p order fuzzy score =>
      exact (p.render_follows resolve c).bind (fun _ => (Score.entries_follow resolve c score).wrap _)
  | pattern form query p analyzed score =>
      exact (p.render_follows resolve c).bind (fun _ => (Score.entries_follow resolve c score).wrap _)
  | queryString field query score =>
      exact (Follows.name resolve c field).bind
        (fun _ => (Score.entries_follow resolve c score).wrap _)
  | equals field value score =>
      exact (Follows.name resolve c field).bind
        (fun _ => (Score.entries_follow resolve c score).wrap _)
  | existence field => exact (Follows.name resolve c field).wrap _
  | near p origin pivot score =>
      exact (p.render_follows resolve c).bind (fun _ => (Score.entries_follow resolve c score).wrap _)
  | geoWithin p area score =>
      unfold demands
      rw [List.append_assoc]
      exact (p.render_follows resolve c).bind (fun _ => (area.entry_follows resolve).bind
        (fun _ => (Score.entries_follow resolve c score).wrap _))
  | geoShape p g relation score =>
      unfold demands
      rw [List.append_assoc]
      exact (p.render_follows resolve c).bind
        (fun _ => (g.render_follows resolve "geometry" shapeTypes).bind
          (fun _ => (Score.entries_follow resolve c score).wrap _))
  | range form p lower upper score =>
      exact (p.render_follows resolve c).bind (fun _ => (Score.entries_follow resolve c score).wrap _)
  | compound must mustNot should filter minimum score =>
      unfold demands
      simp only [List.append_assoc]
      exact (renderClauses_follows "must" must).bind
        (fun _ => (renderClauses_follows "mustNot" mustNot).bind
          (fun _ => (renderClauses_follows "should" should).bind
            (fun _ => (renderClauses_follows "filter" filter).bind
              (fun _ => (Score.entries_follow resolve c score).wrap _))))
  | span s => exact (s.render_follows resolve c).wrap _
  | facet operator facets =>
      exact (render_follows operator).bind
        (fun _ => (Facet.renderAll_follows resolve c facets).wrap _)
  | raw entries =>
      exact .alone (by
        cases found : (Operator.raw entries).render resolve <;>
          simp only [Demand.meet, found] <;> rfl)

/-- The entry of a list of clauses follows their demands. -/
theorem renderClauses_follows (key : String) (clauses : Option (List (Operator Value))) :
    Follows resolve (clauseDemands clauses) (renderClauses resolve key clauses)
      (renderClauses (Schema.untyped.resolver c) key
        (renameClauses resolve.chosen clauses)) := by
  cases clauses with
  | none => exact .done []
  | some clauses => exact (renderAll_follows clauses).wrap _

/-- The documents of several operators follow their demands. -/
theorem renderAll_follows (clauses : List (Operator Value)) :
    Follows resolve (allDemands clauses) (renderAll resolve clauses)
      (renderAll (Schema.untyped.resolver c) (renameAll resolve.chosen clauses)) := by
  cases clauses with
  | nil => exact .done []
  | cons clause rest =>
      exact (render_follows clause).bind (fun document => (renderAll_follows rest).wrap _)

end

end Operator

end

end SearchQuery
