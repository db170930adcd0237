/-
What a failed rendering leaves behind.

A plan is lowered before any value is collected, so a plan that cannot be lowered leaves the
collected values as they were.  The renaming of a text comes after its values have been collected,
though.  When it is refused, the values that the statement compares with stay behind, as if
rendering had succeeded.
-/
import ObjectQuery.Proofs.Plan.Pipeline
import ObjectQuery.Proofs.Sql.Agreement

namespace ObjectQuery
namespace Sql

namespace Parameters

/-- The parameters once some more values are collected.  Values written into the text are not. -/
def extended : Parameters → List Value → Parameters
  | .inline, _ => .inline
  | .collect values, more => .collect (values ++ more)

theorem extended_eq_self_iff {parameters : Parameters} {more : List Value} :
    parameters.extended more = parameters ↔ parameters = .inline ∨ more = [] := by
  cases parameters with
  | inline => simp [extended]
  | collect values => simp [extended]

end Parameters

theorem Select.write_snd (kind : DatabaseKind) (select : Select) (parameters : Parameters) :
    (select.write kind parameters).2 = parameters.extended select.values := by
  rw [write_eq_writePieces]
  cases parameters with
  | inline => rfl
  | collect values =>
    rw [writePieces, ← pieces_phrases, boundValues_phrases, values_phrases]
    rfl

namespace Lowering

variable {l : Lowering} {plan : Plan} {statement : Select}

/-- The values of a statement are all literals of its plan.  Operators in order have one filter, so
no condition replaces another. -/
theorem values_select_of_ascending (selected : l.select plan = .ok statement)
    (ascending : plan.stages.Pairwise fun a b => a.rank < b.rank) :
    statement.values = plan.literals.filter (· ≠ .null) := by
  revert ascending
  refine select_induction
    (motive := fun plan statement => (plan.stages.Pairwise fun a b => a.rank < b.rank) →
      statement.values = plan.literals.filter (· ≠ .null))
    ?scan ?filter ?project ?sort ?limit selected
  case scan => exact fun _ _ => rfl
  case filter =>
    intro input predicate _ _ _ found ascending
    obtain ⟨_, first⟩ := (Plan.ascending_iff_of_input? rfl).mp ascending
    have no_literals : input.literals = [] := by
      cases input with
      | scan => rfl
      | _ => simp [Plan.stage, Stage.rank] at first
    rw [Plan.literals, no_literals, List.nil_append, ← values_condition found]
    rfl
  case project =>
    exact fun below _ ascending => below ((Plan.ascending_iff_of_input? rfl).mp ascending).1
  case sort =>
    exact fun below _ ascending => below ((Plan.ascending_iff_of_input? rfl).mp ascending).1
  case limit =>
    exact fun below ascending => below ((Plan.ascending_iff_of_input? rfl).mp ascending).1

end Lowering

theorem values_of_lower {resolver : Resolver} {naming : Naming} {plan : Plan} {statement : Select}
    (lowered : lower resolver naming plan = .ok statement) :
    statement.values = plan.literals.filter (· ≠ .null) := by
  obtain ⟨_, _, _, _, selected⟩ := lower_eq_ok lowered
  rw [lower, Outcome.check_bind_eq_ok] at lowered
  exact Lowering.values_select_of_ascending selected
    ((Plan.verifyPipeline_eq_ok_iff plan).mp lowered.1)

namespace Renderer

variable {r : Renderer} {plan : Plan} {parameters left : Parameters} {e : Error}
  {lowered : Except Error Select}

/-- Writing a statement never fails, and nothing is collected without a statement. -/
theorem writeLowered_eq_error
    (failed : r.writeLowered parameters lowered = (.error e, left)) :
    lowered = .error e ∧ left = parameters := by
  cases lowered with
  | error e' =>
    simp only [writeLowered, Prod.mk.injEq, Except.error.injEq] at failed
    exact ⟨congrArg _ failed.1, failed.2.symm⟩
  | ok statement => simp [writeLowered] at failed

theorem render_eq_error (failed : r.render plan parameters = (.error e, left)) :
    r.lower plan = .error e ∧ left = parameters :=
  writeLowered_eq_error failed

theorem renderLogical_eq_error (failed : r.renderLogical plan parameters = (.error e, left)) :
    r.lowerLogical plan = .error e ∧ left = parameters :=
  writeLowered_eq_error failed

/-- Renaming the text does not touch the parameters. -/
theorem renderRenamed_snd (r : Renderer) (plan : Plan) (parameters : Parameters) :
    (r.renderRenamed plan parameters).2 = (r.renderLogical plan parameters).2 := by
  unfold renderRenamed
  split
  · next rendered => rw [rendered]
  · next rendered => rw [rendered]

/-- All three ways to render a plan leave the same parameters behind: those it was given, if it
cannot be lowered, and else those with its literals added. -/
theorem snd_render (r : Renderer) (plan : Plan) (parameters : Parameters) :
    (r.renderLogical plan parameters).2 = (r.render plan parameters).2 ∧
      ((∃ e, r.lower plan = .error e) ∧ (r.render plan parameters).2 = parameters ∨
        (∃ statement, r.lower plan = .ok statement) ∧ (r.render plan parameters).2 =
          parameters.extended (plan.literals.filter (· ≠ .null))) := by
  rcases lower_alike r.resolver r.identifierCase plan with ⟨e, logical, physical⟩ |
    ⟨_, _, a, b, _, _, _, logical, physical, _⟩
  · rw [renderLogical, lowerLogical, logical, render, lower, physical]
    exact ⟨rfl, .inl ⟨⟨e, rfl⟩, rfl⟩⟩
  · have left : (b.write r.kind parameters).2 =
        parameters.extended (plan.literals.filter (· ≠ .null)) := by
      rw [Select.write_snd, values_of_lower physical]
    have left_logical : (a.write r.kind parameters).2 = (b.write r.kind parameters).2 := by
      rw [left, Select.write_snd, values_of_lower logical]
    rw [renderLogical, lowerLogical, logical, render, lower, physical]
    exact ⟨left_logical, .inr ⟨⟨b, rfl⟩, left⟩⟩

/-- A rendering that fails while a plan is lowered leaves the parameters as they were.  One whose
renaming is refused leaves what a successful rendering would have left, which is the same only if
the values are written into the text or there are none but null. -/
theorem left_of_failed (r : Renderer) (plan : Plan) (parameters : Parameters) :
    (∀ e left, r.render plan parameters = (.error e, left) → left = parameters) ∧
    (∀ e left, r.renderLogical plan parameters = (.error e, left) → left = parameters) ∧
    ∀ e left, r.renderRenamed plan parameters = (.error e, left) →
      left = (r.render plan parameters).2 ∧
      (left = parameters ↔ (∃ e, r.lower plan = .error e) ∨ parameters = .inline ∨
        ∀ value ∈ plan.literals, value = .null) := by
  refine ⟨fun e left failed => (render_eq_error failed).2,
    fun e left failed => (renderLogical_eq_error failed).2, fun e left failed => ?_⟩
  obtain ⟨same, behind⟩ := r.snd_render plan parameters
  have left_eq : left = (r.render plan parameters).2 := by
    rw [← same, ← renderRenamed_snd, failed]
  refine ⟨left_eq, ?_⟩
  rcases behind with ⟨unlowered, kept⟩ | ⟨⟨statement, lowered⟩, added⟩
  · exact iff_of_true (left_eq.trans kept) (.inl unlowered)
  · have all_null : plan.literals.filter (· ≠ .null) = [] ↔
        ∀ value ∈ plan.literals, value = .null := by
      simp [List.filter_eq_nil_iff]
    rw [left_eq, added, Parameters.extended_eq_self_iff, all_null, lowered]
    simp

end Renderer
end Sql

namespace Cars

def stop : ObjectType :=
  ⟨"Stop", [⟨"where", .string⟩],
    some ⟨"fleet", "stops", "sid", ⟨[("where", "place")], by decide⟩⟩⟩

def stopRenderer : Sql.Renderer :=
  ⟨(⟨⟨[("Stop", stop)], by decide⟩, .empty⟩ : Schema).toResolver, .postgresql, .upper⟩

/-- The stops at a place.  The name of the property is a keyword, so no text of the plan can be
renamed. -/
def stopPlan (place : Value) : Plan := .filter (.scan stop) (.equals 1 place)

def stopClash : Error :=
  .renameAmbiguity "keyword \x60WHERE\x60 reads as the logical identifier \x60where\x60"

/-- Null is not collected, so nothing stays behind. -/
theorem left_stopPlan_null :
    stopRenderer.renderRenamed (stopPlan .null) (.collect [.int 7]) =
        (.error stopClash, .collect [.int 7]) ∧
      (Sql.Parameters.collect [.int 7] = .collect [.int 7] ↔
        (∃ e, stopRenderer.lower (stopPlan .null) = .error e) ∨
          Sql.Parameters.collect [.int 7] = .inline ∨
            ∀ value ∈ (stopPlan .null).literals, value = .null) := by
  have failed : stopRenderer.renderRenamed (stopPlan .null) (.collect [.int 7]) =
      (.error stopClash, .collect [.int 7]) := by decide +kernel
  obtain ⟨_, _, renamed⟩ :=
    Sql.Renderer.left_of_failed stopRenderer (stopPlan .null) (.collect [.int 7])
  exact ⟨failed, (renamed stopClash _ failed).2⟩

/-- A place is collected and stays behind when the renaming is refused.  Rendering the plan with
physical identifiers into the same parameters then counts from two and sends the place twice. -/
theorem left_stopPlan :
    stopRenderer.renderRenamed (stopPlan (.text "Oslo")) (.collect []) =
        (.error stopClash, .collect [.text "Oslo"]) ∧
      stopRenderer.render (stopPlan (.text "Oslo")) (.collect [.text "Oslo"]) =
        (.ok "SELECT \"SID\", \"PLACE\" FROM \"STOPS\" WHERE \"PLACE\" = $2;",
          .collect [.text "Oslo", .text "Oslo"]) :=
  ⟨by decide +kernel, by decide +kernel⟩

end Cars
end ObjectQuery
