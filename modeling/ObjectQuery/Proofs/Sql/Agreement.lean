/-
Renaming in the text agrees with physical identifiers in the statement.

Both ways of rendering fail alike while a plan is lowered.  The two statements then differ in their
identifiers alone, and the text with logical ones is read phrase by phrase: names are renamed to the
physical ones and everything else stays as it is.  So the texts are equal unless the renaming is
refused, which only names that collide or read as a keyword can bring about.
-/
import Mathlib
import ObjectQuery.Proofs.Plan.Literals
import ObjectQuery.Proofs.Sql.Columns
import ObjectQuery.Proofs.Sql.Naming
import ObjectQuery.Proofs.Sql.Renaming
import ObjectQuery.Sql.Renderer

namespace ObjectQuery
namespace Sql

/-! ## The values of a statement are the plan's literals -/

namespace Lowering

variable {l : Lowering}

mutual

/-- The values of a condition are the literals of its predicate.  Null is none. -/
theorem values_condition {row : Row} {predicate : Predicate} {lowered : Condition}
    (found : l.condition row predicate = .ok lowered) :
    lowered.values = (predicate.equalities.map Prod.snd).filter (· ≠ .null) := by
  match predicate with
  | .equals position value =>
    simp only [condition, Outcome.bind_eq_ok, Outcome.pure_eq_ok] at found
    obtain ⟨column, _, rfl⟩ := found
    cases value <;> rfl
  | .all operands =>
    simp only [condition, Outcome.bind_eq_ok, Outcome.pure_eq_ok] at found
    obtain ⟨lowered, found, rfl⟩ := found
    exact values_conditions found

theorem values_conditions {row : Row} {operands : List Predicate} {lowered : List Condition}
    (found : l.conditions row operands = .ok lowered) :
    Condition.valuesOfAll lowered =
      ((Predicate.equalitiesOfAll operands).map Prod.snd).filter (· ≠ .null) := by
  match operands with
  | [] =>
    simp only [conditions, Except.ok.injEq] at found
    simp [← found, Condition.valuesOfAll, Predicate.equalitiesOfAll]
  | operand :: rest =>
    simp only [conditions, Outcome.bind_eq_ok, Outcome.pure_eq_ok] at found
    obtain ⟨first, here, others, there, rfl⟩ := found
    rw [Condition.valuesOfAll, Predicate.equalitiesOfAll, List.map_append, List.filter_append,
      values_condition here, values_conditions there]

end

theorem values_select {plan : Plan} {statement : Select}
    (selected : l.select plan = .ok statement) :
    ∀ value ∈ statement.values, value ∈ plan.literals := by
  refine select_induction
    (motive := fun plan statement => ∀ value ∈ statement.values, value ∈ plan.literals)
    ?scan ?filter ?project ?sort ?limit selected
  case scan => simp [Select.values]
  case filter =>
    intro input predicate _ _ _ found value mem
    have listed : value ∈ (predicate.equalities.map Prod.snd).filter (· ≠ .null) :=
      values_condition found ▸ mem
    exact List.mem_append_right _ (List.mem_of_mem_filter listed)
  case project => exact fun below _ => below
  case sort => exact fun below _ => below
  case limit => exact fun below => below

end Lowering

/-! ## Phrases with logical names are renamed to those with physical ones -/

section

variable {kind : DatabaseKind} {names : String → String → Prop}

theorem exists_reads_steady (kind : DatabaseKind) (parameters : Parameters) (bound : Nat)
    {value : Value} (finite : value.IsFinite) :
    ∃ tokens, Token.Reads (.ofKind kind) (parameters.writeValue kind bound value).toList tokens ∧
      ∀ token ∈ tokens, Renaming.IsSteady token := by
  cases parameters with
  | collect _ =>
    obtain ⟨tokens, reads, wording⟩ := wording_placeholder kind (bound + 1)
    exact ⟨tokens, reads, fun token mem => .inl (wording token mem)⟩
  | inline =>
    cases texts : value.text? with
    | none =>
      obtain ⟨tokens, reads, wording⟩ := wording_literalText kind texts finite
      exact ⟨tokens, reads, fun token mem => .inl (wording token mem)⟩
    | some text =>
      cases value with
      | text value =>
        refine ⟨_, reads_quoteText (q := .ofKind kind) value, fun token mem => ?_⟩
        exact .inr ⟨_, List.mem_singleton.mp mem⟩
      | _ => contradiction

/-- The text of phrases is read as tokens that a renaming turns into the text of the phrases with
the other names. -/
theorem exists_reads_renamed {r : Renaming} (quoting : r.quoting = .ofKind kind)
    (apart : Renaming.indistinguishable? r.renames = none) (parameters : Parameters)
    {logical physical : List Phrase}
    (renamed : List.Forall₂ (Phrase.Renamed fun a b => ⟨a, b⟩ ∈ r.renames) logical physical)
    (legible : ∀ phrase ∈ logical, phrase.Legible kind)
    (separated : ∀ phrase ∈ logical.tail, phrase.Separated kind)
    (finite : ∀ value ∈ logical.filterMap Phrase.value?, value.IsFinite) (bound : Nat) :
    ∃ tokens,
      Token.Reads (.ofKind kind) (phrasesText kind (parameters.writeValue kind) bound logical)
        tokens ∧
      r.Yields tokens (phrasesText kind (parameters.writeValue kind) bound physical) := by
  induction renamed generalizing bound with
  | nil => exact ⟨[], .nil, .nil⟩
  | @cons phrase phrase' rest rest' first _ ih =>
    rw [List.forall_mem_cons] at legible
    have item : ∃ tokens,
        Token.Reads (.ofKind kind) (phrase.itemText kind (parameters.writeValue kind bound))
          tokens ∧
        r.Yields tokens (phrase'.itemText kind (parameters.writeValue kind bound)) := by
      cases first with
      | bare _ => exact ⟨[], .nil, .nil⟩
      | @name _ a b listed =>
        refine ⟨_, reads_quoteChars (by cases kind <;> decide) a.toList, ?_⟩
        have yields := Renaming.Yields.quoted apart listed
          (quoteChars (Quoting.ofKind kind).quote a.toList)
        rw [quoting] at yields
        exact yields
      | value _ value =>
        obtain ⟨tokens, reads, steady⟩ := exists_reads_steady kind parameters bound
          (finite value (by simp [Phrase.value?]))
        refine ⟨tokens, reads, ?_⟩
        have yields := Renaming.Yields.steady (r := r) steady
        rw [reads.sources] at yields
        exact yields
    obtain ⟨own, reads, yields⟩ := item
    obtain ⟨words, wording, sources, here⟩ := legible.1.reads reads
    have words_stay : r.Yields words phrase'.words.toList := by
      rw [← first.words_eq, ← sources]
      exact .steady fun token mem => .inl (wording token mem)
    obtain ⟨later, others, rest_yields⟩ := ih legible.2
      (fun phrase mem => separated phrase (List.mem_of_mem_tail mem))
      (fun value mem => finite value (by
        rw [filterMap_cons_toList]
        exact List.mem_append_right _ mem))
      (if phrase.value?.isSome then bound + 1 else bound)
    refine ⟨words ++ own ++ later, ?_, ?_⟩
    · exact here.append others fun _ _ c mem => .inr (head_phrasesText separated c mem)
    · rw [phrasesText, Phrase.text, ← first.value?_eq]
      exact (words_stay.append yields).append rest_yields

theorem boundValues_phrases (kind : DatabaseKind) (phrases : List Phrase) :
    boundValues (phrases.flatMap (Phrase.pieces kind)) = phrases.filterMap Phrase.value? := by
  induction phrases with
  | nil => rfl
  | cons phrase rest ih =>
    obtain ⟨words, item⟩ := phrase
    rw [List.flatMap_cons, filterMap_cons_toList, ← ih]
    rcases item with _ | identifier | value
    · rfl
    · rfl
    · rfl

theorem Select.Renamed.parameters_eq {a b : Select} (renamed : a.Renamed names b)
    (parameters : Parameters) :
    (a.write kind parameters).2 = (b.write kind parameters).2 := by
  have values {logical physical : List Phrase}
      (related : List.Forall₂ (Phrase.Renamed names) logical physical) :
      logical.filterMap Phrase.value? = physical.filterMap Phrase.value? := by
    induction related with
    | nil => rfl
    | cons first _ ih => rw [filterMap_cons_toList, filterMap_cons_toList, first.value?_eq, ih]
  rw [write_eq_writePieces, write_eq_writePieces]
  cases parameters with
  | inline => rfl
  | collect collected =>
    have same := values renamed.phrases
    rw [← boundValues_phrases kind, ← boundValues_phrases kind,
      pieces_phrases, pieces_phrases] at same
    rw [writePieces, writePieces, same]

end

/-! ## The renaming of a rendered text -/

/-- Why the renaming of a text with some tokens is refused: two renames cannot be told apart, one
leads to another's logical identifier, or a keyword of the text reads as one. -/
inductive Renaming.Refused (type : ObjectType) (r : Renaming) (tokens : List Token) : Error → Prop
  | indistinguishable {a b : Rename} (mem_a : a ∈ r.renames) (mem_b : b ∈ r.renames)
      (same : Text.sameIgnoringAsciiCase a.logical b.logical = true)
      (differ : a.physical ≠ b.physical) :
      Refused type r tokens (.renameAmbiguity
        ("\x60" ++ a.logical ++ "\x60 and \x60" ++ b.logical ++ "\x60 of \x60" ++ type.name
          ++ "\x60 are indistinguishable but map to \x60" ++ a.physical ++ "\x60 and \x60"
          ++ b.physical ++ "\x60"))
  | rereadable {a b : Rename} (mem_a : a ∈ r.renames) (mem_b : b ∈ r.renames)
      (same : Text.sameIgnoringAsciiCase a.physical b.logical = true)
      (differ : a.physical ≠ b.physical) :
      Refused type r tokens (.renameAmbiguity
        ("\x60" ++ a.logical ++ "\x60 maps to \x60" ++ a.physical
          ++ "\x60, which is also the logical identifier \x60" ++ b.logical ++ "\x60 of \x60"
          ++ type.name ++ "\x60"))
  | keyword {source : List Char} (emitted : .word source ∈ tokens) {e : Error}
      (clash : r.KeywordClash (String.ofList source) e) : Refused type r tokens e

theorem Renaming.ofMapping_eq_error {type : ObjectType} {mapping : Mapping}
    {identifierCase : IdentifierCase} {quoting : Quoting} {e : Error} (tokens : List Token)
    (failed : ofMapping type mapping identifierCase quoting = .error e) :
    Refused type (unchecked type mapping identifierCase quoting) tokens e := by
  simp only [ofMapping] at failed
  split at failed
  · next a b found =>
    obtain ⟨mem_a, mem_b, same, differ⟩ := indistinguishable?_eq_some found
    cases failed
    exact .indistinguishable mem_a mem_b same differ
  · split at failed
    · next a b found =>
      obtain ⟨mem_a, mem_b, same, differ⟩ := rereadable?_eq_some found
      cases failed
      exact .rereadable mem_a mem_b same differ
    · contradiction

/-- A plan is lowered to statements that differ in their identifiers alone, or it fails alike. -/
theorem lower_alike (resolver : Resolver) (identifierCase : IdentifierCase) (plan : Plan) :
    (∃ e, lower resolver .logical plan = .error e ∧
      lower resolver (.physical identifierCase) plan = .error e) ∨
    ∃ type mapping logical physical,
      resolver.objectType? plan.objectType.name = some type ∧
      resolver.mapping? plan.objectType.name = some mapping ∧
      Lowering.select ⟨type, mapping, .logical⟩ plan = .ok logical ∧
      lower resolver .logical plan = .ok logical ∧
      lower resolver (.physical identifierCase) plan = .ok physical ∧
      logical.Renamed (Lowering.Replaces type mapping identifierCase) physical := by
  simp only [lower]
  cases verifyPipeline plan with
  | error e => exact .inl ⟨e, rfl, rfl⟩
  | ok _ =>
    cases typed : resolver.objectType? plan.objectType.name with
    | none => exact .inl ⟨_, rfl, rfl⟩
    | some type =>
      cases mapped : resolver.mapping? plan.objectType.name with
      | none => exact .inl ⟨_, rfl, rfl⟩
      | some mapping =>
        have alike := Lowering.select_alike type mapping identifierCase plan
        generalize logical_eq : Lowering.select ⟨type, mapping, .logical⟩ plan = x at alike
        generalize physical_eq :
          Lowering.select ⟨type, mapping, .physical identifierCase⟩ plan = y at alike
        cases alike with
        | @error e _ same => exact .inl ⟨e, logical_eq, same ▸ physical_eq⟩
        | ok renamed =>
          exact .inr ⟨type, mapping, _, _, rfl, rfl, logical_eq, logical_eq, physical_eq, renamed⟩

namespace Renderer

/-- The text with logical names is split into tokens, and its renaming is refused. -/
def Refuses (r : Renderer) (plan : Plan) (parameters : Parameters) (e : Error) : Prop :=
  ∃ type mapping text tokens, r.resolver.objectType? plan.objectType.name = some type ∧
    r.resolver.mapping? plan.objectType.name = some mapping ∧
    (r.renderLogical plan parameters).1 = .ok text ∧
    Token.split (.ofKind r.kind) text = .ok tokens ∧
    Renaming.Refused type (.unchecked type mapping r.identifierCase (.ofKind r.kind)) tokens e

end Renderer

/-- Renaming the text of a statement gives the text of the statement with the other identifiers, or
is refused for a keyword. -/
theorem Renaming.apply_write {type : ObjectType} {r : Renaming} {kind : DatabaseKind}
    (quoting : r.quoting = .ofKind kind) (apart : indistinguishable? r.renames = none)
    {logical physical : Select}
    (renamed : logical.Renamed (fun a b => ⟨a, b⟩ ∈ r.renames) physical)
    (table : logical.table = r.table.logical)
    (finite : ∀ value ∈ logical.values, value.IsFinite) (parameters : Parameters) :
    ∃ tokens, Token.split (.ofKind kind) (logical.write kind parameters).1 = .ok tokens ∧
      (r.apply (logical.write kind parameters).1 = .ok (physical.write kind parameters).1 ∨
        ∃ e, Refused type r tokens e ∧ r.apply (logical.write kind parameters).1 = .error e) := by
  obtain ⟨legible, separated⟩ := logical.legible_phrases kind
  rw [← Select.values_phrases] at finite
  obtain ⟨tokens, reads, yields⟩ := exists_reads_renamed quoting apart parameters renamed.phrases
    legible separated finite parameters.bound
  rw [← Select.write_phrases] at reads
  rw [← Select.write_phrases] at yields
  have split := Token.split_eq_ok_iff.mpr reads
  obtain ⟨others, reads_others, names, _⟩ := logical.exists_reads_write kind parameters
  have same : tokens = others := by
    have split_others := Token.split_eq_ok_iff.mpr reads_others
    rw [split, Except.ok.injEq] at split_others
    exact split_others
  have names_table : ∃ token ∈ tokens, token.identifier? = some r.table.logical := by
    rw [← List.mem_filterMap, same, names, ← table]
    simp [Select.identifiers]
  obtain ⟨token, mem, is_table⟩ := names_table
  refine ⟨tokens, split, ?_⟩
  rw [apply, quoting, split]
  cases result : r.renameTokens tokens with
  | error e =>
    obtain ⟨source, emitted, clash⟩ := renameTokens_eq_error result
    exact .inr ⟨e, .keyword emitted clash, by simp [result, bind, Except.bind]⟩
  | ok out =>
    obtain ⟨text, named⟩ := out
    have found := named_of_mem mem is_table result
    have physical_text := yields text named result
    refine .inl ?_
    simp [result, bind, Except.bind, found, physical_text, pure, Except.pure]

namespace Renderer

/-- Renaming the rendered text of a plan with finite literals gives what rendering with physical
identifiers gives, the same error included, or it is refused; and planned queries have finite
literals. -/
theorem renderRenamed_eq_render :
    (∀ (schema : Schema) (policy : UnknownFields) (query : Query) (plan : Plan),
      Plan.ofQuery schema policy query = .ok plan → plan.IsFinite) ∧
    ∀ (r : Renderer) (plan : Plan) (parameters : Parameters), plan.IsFinite →
      match r.render plan parameters with
      | (.error e, left) => r.renderRenamed plan parameters = (.error e, left)
      | (.ok text, left) =>
        r.renderRenamed plan parameters = (.ok text, left) ∨
          ∃ e, r.Refuses plan parameters e ∧ r.renderRenamed plan parameters = (.error e, left) := by
  refine ⟨fun _ _ _ _ => Plan.isFinite_ofQuery, fun r plan parameters finite => ?_⟩
  rcases lower_alike r.resolver r.identifierCase plan with ⟨e, logical, physical⟩ |
    ⟨type, mapping, a, b, typed, mapped, selected, logical, physical, renamed⟩
  · have rendered : r.render plan parameters = (.error e, parameters) := by
      rw [render, lower, physical]
      rfl
    have renderedLogical : r.renderLogical plan parameters = (.error e, parameters) := by
      rw [renderLogical, lowerLogical, logical]
      rfl
    rw [rendered]
    simp only [renderRenamed, renderedLogical]
  · have rendered : r.render plan parameters =
        (.ok (b.write r.kind parameters).1, (b.write r.kind parameters).2) := by
      rw [render, lower, physical]
      rfl
    have renderedLogical : r.renderLogical plan parameters =
        (.ok (a.write r.kind parameters).1, (b.write r.kind parameters).2) := by
      rw [renderLogical, lowerLogical, logical, ← renamed.parameters_eq]
      rfl
    have names : r.renamingOf plan.objectType.name =
        Renaming.ofMapping type mapping r.identifierCase (.ofKind r.kind) := by
      simp only [renamingOf, typed, mapped]
    rw [rendered]
    simp only [renderRenamed, renderedLogical, names]
    have values : ∀ value ∈ a.values, value.IsFinite := fun value mem =>
      finite value (Lowering.values_select selected value mem)
    have logical_text : (r.renderLogical plan parameters).1 =
        .ok (a.write r.kind parameters).1 := by
      rw [renderedLogical]
    cases made : Renaming.ofMapping type mapping r.identifierCase (.ofKind r.kind) with
    | error e =>
      obtain ⟨tokens, reads, _⟩ := a.exists_reads_write r.kind parameters
      have split := Token.split_eq_ok_iff.mpr reads
      have refused := Renaming.ofMapping_eq_error tokens made
      exact .inr ⟨e, ⟨type, mapping, _, tokens, typed, mapped, logical_text, split, refused⟩, rfl⟩
    | ok names =>
      obtain ⟨rfl, apart, _⟩ := Renaming.ofMapping_eq_ok made
      obtain ⟨tokens, split, agrees | ⟨e, refused, failed⟩⟩ := Renaming.apply_write rfl apart
        renamed (Lowering.table_select selected) values parameters
      · exact .inl (by rw [Except.bind, agrees])
      · have cause : r.Refuses plan parameters e :=
          ⟨type, mapping, _, tokens, typed, mapped, logical_text, split, refused⟩
        exact .inr ⟨e, cause, by rw [Except.bind, failed]⟩

end Renderer
end Sql

namespace Cars

def renderer : Sql.Renderer := ⟨schema.toResolver, .postgresql, .upper⟩

/-- The cars of a plate that has a field's name in it. -/
def platePlan : Plan := .filter (.scan car) (.equals 1 (.text "year's"))

def plateText : String :=
  "SELECT \"VID\", \"PLATE_NO\", \"YR\" FROM \"CARS\" WHERE \"PLATE_NO\" = 'year''s';"

theorem renderRenamed_platePlan :
    platePlan.IsFinite ∧ renderer.render platePlan .inline = (.ok plateText, .inline) ∧
      (renderer.renderRenamed platePlan .inline = (.ok plateText, .inline) ∨
        ∃ e, renderer.Refuses platePlan .inline e ∧
          renderer.renderRenamed platePlan .inline = (.error e, .inline)) := by
  have finite : platePlan.IsFinite := by
    intro value mem
    rw [List.mem_singleton.mp mem]
    trivial
  have rendered : renderer.render platePlan .inline = (.ok plateText, .inline) := by cbv
  have agreed := Sql.Renderer.renderRenamed_eq_render.2 renderer platePlan .inline finite
  rw [rendered] at agreed
  exact ⟨finite, rendered, agreed⟩

end Cars
end ObjectQuery
