/-
What a renaming does to tokens.

A renaming fails on a keyword that reads as a logical identifier, and on nothing else.  Where it
succeeds, literals, plain text and keywords stay as they are, and a quoted logical identifier becomes
the physical one: renames that cannot be told apart have been refused, so the first that fits is as
good as any.
-/
import Mathlib.Data.List.Pairwise
import ObjectQuery.Proofs.Sql.Quotation
import ObjectQuery.Proofs.Text.LetterCase

namespace ObjectQuery
namespace Sql
namespace Renaming

variable {r : Renaming} {tokens xs ys : List Token} {token : Token}

/-- A word is a keyword and reads as a logical identifier, and the error says so. -/
def KeywordClash (r : Renaming) (word : String) (e : Error) : Prop :=
  keywords.any (Text.sameIgnoringAsciiCase · word) = true ∧
    ∃ rename ∈ r.renames, Text.sameIgnoringAsciiCase rename.logical word = true ∧
      e = .renameAmbiguity ("keyword \x60" ++ word ++ "\x60 reads as the logical identifier \x60"
        ++ rename.logical ++ "\x60")

theorem renameToken_eq_error {e : Error} (failed : r.renameToken token = .error e) :
    ∃ source, token = .word source ∧ r.KeywordClash (String.ofList source) e := by
  cases token with
  | text source => contradiction
  | literal source => contradiction
  | quoted identifier source =>
    simp only [renameToken] at failed
    split at failed <;> contradiction
  | word source =>
    refine ⟨source, rfl, ?_⟩
    simp only [renameToken] at failed
    split at failed
    · next rename found =>
      have same := List.find?_some found
      split at failed
      · next keyword =>
        simp only [Except.error.injEq] at failed
        exact ⟨keyword, rename, List.mem_of_find?_eq_some found, same, failed.symm⟩
      · contradiction
    · contradiction

/-- Only a word that is a keyword and reads as a logical identifier makes a renaming fail. -/
theorem renameTokens_eq_error {e : Error} (failed : r.renameTokens tokens = .error e) :
    ∃ source, .word source ∈ tokens ∧ r.KeywordClash (String.ofList source) e := by
  induction tokens with
  | nil => contradiction
  | cons token rest ih =>
    rw [renameTokens] at failed
    cases first : r.renameToken token with
    | error e' =>
      rw [first] at failed
      obtain ⟨source, rfl, clash⟩ := renameToken_eq_error first
      cases failed
      exact ⟨source, .head _, clash⟩
    | ok renamed =>
      rw [first] at failed
      cases others : r.renameTokens rest with
      | error e' =>
        simp only [others, bind, Except.bind, Except.error.injEq] at failed
        obtain ⟨source, mem, clash⟩ := ih (others.trans (congrArg _ failed))
        exact ⟨source, .tail _ mem, clash⟩
      | ok renamed' => simp [others, bind, Except.bind, pure, Except.pure] at failed

theorem renameTokens_cons_eq_ok {out : List Char} {named : Bool} :
    r.renameTokens (token :: tokens) = .ok (out, named) ↔
      ∃ first here others later, r.renameToken token = .ok (first, here) ∧
        r.renameTokens tokens = .ok (others, later) ∧ first ++ others = out ∧
        (here || later) = named := by
  rw [renameTokens]
  simp only [Outcome.bind_eq_ok, Outcome.pure_eq_ok, Prod.exists, Prod.mk.injEq]
  constructor
  · rintro ⟨first, here, renamed, others, later, rest, joined⟩
    exact ⟨first, here, others, later, renamed, rest, joined⟩
  · rintro ⟨first, here, others, later, renamed, rest, joined⟩
    exact ⟨first, here, renamed, others, later, rest, joined⟩

theorem renameTokens_append_eq_ok {out : List Char} {named : Bool}
    (renamed : r.renameTokens (xs ++ ys) = .ok (out, named)) :
    ∃ left here right later, r.renameTokens xs = .ok (left, here) ∧
      r.renameTokens ys = .ok (right, later) ∧ left ++ right = out ∧ (here || later) = named := by
  induction xs generalizing out named with
  | nil => exact ⟨[], false, out, named, rfl, renamed, rfl, rfl⟩
  | cons token rest ih =>
    obtain ⟨first, here, _, _, one, others, rfl, rfl⟩ := renameTokens_cons_eq_ok.mp renamed
    obtain ⟨left, between, right, later, before, after, rfl, rfl⟩ := ih others
    refine ⟨first ++ left, here || between, right, later, ?_, after, ?_, ?_⟩
    · exact renameTokens_cons_eq_ok.mpr ⟨first, here, left, between, one, before, rfl, rfl⟩
    · rw [List.append_assoc]
    · rw [Bool.or_assoc]

theorem named_of_mem {out : List Char} {named : Bool} (mem : token ∈ tokens)
    (table : token.identifier? = some r.table.logical)
    (renamed : r.renameTokens tokens = .ok (out, named)) : named = true := by
  induction tokens generalizing out named with
  | nil => contradiction
  | cons head rest ih =>
    obtain ⟨first, here, others, later, one, after, rfl, rfl⟩ :=
      renameTokens_cons_eq_ok.mp renamed
    rcases List.mem_cons.mp mem with rfl | behind
    · cases token with
      | text => contradiction
      | literal => contradiction
      | word => contradiction
      | quoted identifier source =>
        simp only [Token.identifier?, Option.some.injEq] at table
        have is_table : identifier = r.table.logical.toList := by
          rw [← table, String.toList_ofList]
        simp only [renameToken, is_table, decide_true] at one
        split at one <;> simp_all
    · rw [ih behind after, Bool.or_true]

/-! ## The text after renaming -/

/-- A renaming that succeeds turns the tokens into a text. -/
def Yields (r : Renaming) (tokens : List Token) (text : List Char) : Prop :=
  ∀ out named, r.renameTokens tokens = .ok (out, named) → out = text

theorem Yields.nil : r.Yields [] [] := by
  intro out named renamed
  simp only [renameTokens, Except.ok.injEq, Prod.mk.injEq] at renamed
  exact renamed.1.symm

theorem Yields.append {left right : List Char} (first : r.Yields xs left)
    (second : r.Yields ys right) : r.Yields (xs ++ ys) (left ++ right) := by
  intro out named renamed
  obtain ⟨_, _, _, _, before, after, rfl, _⟩ := renameTokens_append_eq_ok renamed
  rw [first _ _ before, second _ _ after]

theorem Yields.single {text : List Char}
    (one : ∀ out named, r.renameToken token = .ok (out, named) → out = text) :
    r.Yields [token] text := by
  intro out named renamed
  obtain ⟨_, _, _, _, here, rest, rfl, _⟩ := renameTokens_cons_eq_ok.mp renamed
  rw [one _ _ here, Yields.nil _ _ rest, List.append_nil]

/-- Whether a token is a keyword, plain text or a literal. -/
def IsSteady (token : Token) : Prop := token.isWording = true ∨ ∃ source, token = .literal source

theorem Yields.steady (steady : ∀ token ∈ tokens, IsSteady token) :
    r.Yields tokens (tokens.flatMap Token.source) := by
  induction tokens with
  | nil => exact .nil
  | cons token rest ih =>
    rw [List.forall_mem_cons] at steady
    show r.Yields ([token] ++ rest) (token.source ++ rest.flatMap Token.source)
    refine .append (.single fun out named renamed => ?_) (ih steady.2)
    rcases steady.1 with wording | ⟨source, rfl⟩
    · cases token with
      | text source =>
        simp only [renameToken, Except.ok.injEq, Prod.mk.injEq] at renamed
        exact renamed.1.symm
      | literal => contradiction
      | quoted => contradiction
      | word source =>
        have keyword : String.ofList source ∈ keywords := by simpa [Token.isWording] using wording
        have same : Text.sameIgnoringAsciiCase (String.ofList source) (String.ofList source) =
            true := by simp [Text.sameIgnoringAsciiCase]
        have clash : keywords.any (Text.sameIgnoringAsciiCase · (String.ofList source)) = true :=
          List.any_eq_true.mpr ⟨_, keyword, same⟩
        simp only [renameToken, clash, if_true] at renamed
        split at renamed
        · contradiction
        · simp only [Except.ok.injEq, Prod.mk.injEq] at renamed
          exact renamed.1.symm
    · simp only [renameToken, Except.ok.injEq, Prod.mk.injEq] at renamed
      exact renamed.1.symm

/-! ## Renames that can be told apart -/

theorem pairwise_of_indistinguishable? {renames : List Rename}
    (apart : indistinguishable? renames = none) :
    renames.Pairwise fun a b =>
      Text.sameIgnoringAsciiCase a.logical b.logical = true → a.physical = b.physical := by
  induction renames with
  | nil => exact .nil
  | cons a rest ih =>
    rw [indistinguishable?] at apart
    split at apart
    · contradiction
    · next none_found =>
      refine .cons (fun b mem same => ?_) (ih apart)
      have differs := List.find?_eq_none.mp none_found b mem
      simpa [same] using differs

theorem indistinguishable?_eq_some {renames : List Rename} {a b : Rename}
    (found : indistinguishable? renames = some (a, b)) :
    a ∈ renames ∧ b ∈ renames ∧ Text.sameIgnoringAsciiCase a.logical b.logical = true ∧
      a.physical ≠ b.physical := by
  induction renames with
  | nil => contradiction
  | cons head rest ih =>
    rw [indistinguishable?] at found
    split at found
    · next other hit =>
      simp only [Option.some.injEq, Prod.mk.injEq] at found
      obtain ⟨rfl, rfl⟩ := found
      have differs := List.find?_some hit
      simp only [Bool.and_eq_true, bne_iff_ne] at differs
      exact ⟨.head _, .tail _ (List.mem_of_find?_eq_some hit), differs⟩
    · obtain ⟨mem_a, mem_b, differs⟩ := ih found
      exact ⟨.tail _ mem_a, .tail _ mem_b, differs⟩

theorem rereadable?_eq_some {renames : List Rename} {a b : Rename}
    (found : rereadable? renames = some (a, b)) :
    a ∈ renames ∧ b ∈ renames ∧ Text.sameIgnoringAsciiCase a.physical b.logical = true ∧
      a.physical ≠ b.physical := by
  obtain ⟨first, mem, hit⟩ := List.exists_of_findSome?_eq_some found
  obtain ⟨other, reread, same⟩ := Option.map_eq_some_iff.mp hit
  simp only [Prod.mk.injEq] at same
  obtain ⟨rfl, rfl⟩ := same
  have differs := List.find?_some reread
  simp only [Bool.and_eq_true, bne_iff_ne] at differs
  exact ⟨mem, List.mem_of_find?_eq_some reread, differs⟩

theorem physical_eq {renames : List Rename} (apart : indistinguishable? renames = none)
    {a b : Rename} (mem_a : a ∈ renames) (mem_b : b ∈ renames) (same : a.logical = b.logical) :
    a.physical = b.physical := by
  by_cases different : a = b
  · rw [different]
  · have : Std.Symm fun a b : Rename =>
        Text.sameIgnoringAsciiCase a.logical b.logical = true → a.physical = b.physical :=
      ⟨fun a b forth back =>
        (forth ((Text.sameIgnoringAsciiCase_comm a.logical b.logical).trans back)).symm⟩
    refine (pairwise_of_indistinguishable? apart).forall mem_a mem_b different ?_
    simp [same, Text.sameIgnoringAsciiCase]

/-- The renames of an object type, whether or not they can be told apart. -/
def unchecked (type : ObjectType) (mapping : Mapping) (identifierCase : IdentifierCase)
    (quoting : Quoting) : Renaming :=
  ⟨⟨type.name, identifierCase.apply mapping.table⟩, renamesOf type mapping identifierCase, quoting⟩

/-- A renaming that is made has passed both checks. -/
theorem ofMapping_eq_ok {type : ObjectType} {mapping : Mapping} {identifierCase : IdentifierCase}
    {quoting : Quoting} (made : ofMapping type mapping identifierCase quoting = .ok r) :
    r = unchecked type mapping identifierCase quoting ∧ indistinguishable? r.renames = none ∧
      rereadable? r.renames = none := by
  simp only [ofMapping] at made
  split at made
  · contradiction
  · next apart =>
    split at made
    · contradiction
    · next settled =>
      cases made
      exact ⟨rfl, apart, settled⟩

/-- A quoted logical identifier becomes the physical one. -/
theorem Yields.quoted (apart : indistinguishable? r.renames = none) {a b : String}
    (listed : ⟨a, b⟩ ∈ r.renames) (source : List Char) :
    r.Yields [.quoted a.toList source] (quoteChars r.quoting.quote b.toList) := by
  refine .single fun out named renamed => ?_
  simp only [renameToken] at renamed
  split at renamed
  · next rename found =>
    simp only [Except.ok.injEq, Prod.mk.injEq] at renamed
    have logical : rename.logical.toList = a.toList := by simpa using List.find?_some found
    have physical := physical_eq apart (List.mem_of_find?_eq_some found) listed
      (String.toList_inj.mp logical)
    rw [← renamed.1, physical]
  · next missing =>
    have absent := List.find?_eq_none.mp missing _ listed
    simp at absent

end Renaming
end Sql
end ObjectQuery
