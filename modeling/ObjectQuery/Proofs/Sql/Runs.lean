/-
Quoted identifiers that stand side by side.

Where the quote that closes an identifier is followed by the one that opens another, the two are a
doubled quote of a longer identifier.  So tokens that are put one behind the other are read as they
were, except that a run of quoted identifiers is read as one (`reads_runs`).
-/
import Mathlib.Data.List.SplitBy
import ObjectQuery.Proofs.Sql.Partition

namespace ObjectQuery
namespace Sql
namespace Token

/-- Whether a token ends where another one starts, or the two are read as one quoted identifier. -/
def Meets (q : Quoting) (token other : Token) : Prop :=
  token.KeepsFrom q other ∨ token.isQuoted = true ∧ other.isQuoted = true

def identifier : Token → List Char
  | .quoted identifier _ => identifier
  | _ => []

/-- Tokens in runs: quoted identifiers that stand side by side, and any other token alone. -/
def runs (tokens : List Token) : List (List Token) :=
  tokens.splitBy fun a b => a.isQuoted && b.isQuoted

/-- The identifier that a run of quoted identifiers is read as. -/
def joined (quote : Char) : List Token → List Char
  | [] => []
  | [token] => token.identifier
  | token :: rest => token.identifier ++ quote :: joined quote rest

/-- What a run is read as. -/
def fused (quote : Char) : List Token → Token
  | [token] => token
  | run => .quoted (joined quote run) (quoteChars quote (joined quote run))

section

variable {q : Quoting} {a b token : Token} {tokens run rest : List Token} {c : Char}

/-! ## One run -/

theorem isQuoted_of_isChain
    (chain : (a :: b :: rest).IsChain fun a b => (a.isQuoted && b.isQuoted) = true) :
    ∀ token ∈ a :: b :: rest, token.isQuoted = true := by
  induction rest generalizing a b with
  | nil => simpa using chain
  | cons next rest ih =>
    rw [List.isChain_cons_cons, Bool.and_eq_true] at chain
    exact List.forall_mem_cons.mpr ⟨chain.1.1, ih chain.2⟩

theorem alone_or_quoted (mem : run ∈ runs tokens) :
    (∃ token, run = [token]) ∨
      ∃ a b rest, run = a :: b :: rest ∧ ∀ token ∈ run, token.isQuoted = true := by
  have chain := List.isChain_of_mem_splitBy mem
  cases run with
  | nil => exact (List.ne_nil_of_mem_splitBy mem rfl).elim
  | cons a rest =>
    cases rest with
    | nil => exact .inl ⟨a, rfl⟩
    | cons b rest => exact .inr ⟨a, b, rest, rfl, isQuoted_of_isChain chain⟩

theorem mem_of_mem_runs (mem : run ∈ runs tokens) (mem_token : token ∈ run) : token ∈ tokens := by
  rw [← List.flatten_splitBy (fun a b : Token => a.isQuoted && b.isQuoted) tokens]
  exact List.mem_flatten_of_mem mem mem_token

theorem quoteChars_append (quote : Char) (xs ys : List Char) :
    quoteChars quote xs ++ quoteChars quote ys = quoteChars quote (xs ++ quote :: ys) := by
  simp [quoteChars]

theorem Shaped.source_of_isQuoted (shaped : token.Shaped q) (quoted : token.isQuoted = true) :
    token.source = quoteChars q.quote token.identifier := by
  cases shaped with
  | quoted => rfl
  | _ => contradiction

theorem sources_of_isQuoted (shaped : ∀ token ∈ a :: rest, token.Shaped q)
    (quoted : ∀ token ∈ a :: rest, token.isQuoted = true) :
    (a :: rest).flatMap source = quoteChars q.quote (joined q.quote (a :: rest)) := by
  induction rest generalizing a with
  | nil => simpa [joined] using (shaped a (.head _)).source_of_isQuoted (quoted a (.head _))
  | cons b rest ih =>
    rw [List.forall_mem_cons] at shaped quoted
    rw [List.flatMap_cons, ih shaped.2 quoted.2, shaped.1.source_of_isQuoted quoted.1,
      quoteChars_append]
    rfl

/-- A run is read as a token of its whole text. -/
theorem shaped_fused (mem : run ∈ runs tokens) (shaped : ∀ token ∈ tokens, token.Shaped q) :
    (fused q.quote run).source = run.flatMap source ∧ (fused q.quote run).Shaped q := by
  have shaped_run : ∀ token ∈ run, token.Shaped q := fun token mem_token =>
    shaped token (mem_of_mem_runs mem mem_token)
  obtain ⟨token, rfl⟩ | ⟨a, b, rest, rfl, quoted⟩ := alone_or_quoted mem
  · exact ⟨by simp [fused], shaped_run token (.head _)⟩
  · exact ⟨(sources_of_isQuoted shaped_run quoted).symm, .quoted _⟩

/-- What goes on in a run goes on in its last token. -/
theorem continues_fused (mem : run ∈ runs tokens) (last : token ∈ run.getLast?) :
    (fused q.quote run).continues q c = token.continues q c := by
  obtain ⟨_, rfl⟩ | ⟨a, b, rest, rfl, quoted⟩ := alone_or_quoted mem
  · obtain rfl := Option.some.inj last
    rfl
  · have is_quoted := quoted token (List.mem_of_mem_getLast? last)
    cases token with
    | quoted => rfl
    | _ => contradiction

/-! ## All runs -/

theorem sources_runs (shaped : ∀ token ∈ tokens, token.Shaped q) :
    ((runs tokens).map (fused q.quote)).flatMap source = tokens.flatMap source := by
  have same : ∀ run ∈ runs tokens, (fused q.quote run).source = run.flatMap source :=
    fun run mem => (shaped_fused mem shaped).1
  calc
    ((runs tokens).map (fused q.quote)).flatMap source
        = (runs tokens).flatMap fun run => run.flatMap source := by
          rw [List.flatMap_map]
          exact List.flatMap_congr same
    _ = (runs tokens).flatten.flatMap source := by
          rw [List.flatten_eq_flatMap, List.flatMap_assoc]
          rfl
    _ = tokens.flatMap source := by rw [runs, List.flatten_splitBy]

/-- Tokens that meet are read again from their sources, each run as one token. -/
theorem reads_runs (proper : q.Proper) (stand : ∀ token ∈ tokens, token.Stands q)
    (meet : tokens.IsChain (Meets q)) :
    Reads q (tokens.flatMap source) ((runs tokens).map (fused q.quote)) := by
  have shaped : ∀ token ∈ tokens, token.Shaped q := fun token mem =>
    (stands_iff_shaped proper).mp (stand token mem)
  refine reads_iff.mpr ⟨sources_runs shaped, ?_, ?_⟩
  · rw [List.forall_mem_map]
    exact fun run mem => (stands_iff_shaped proper).mpr (shaped_fused mem shaped).2
  · have borders : (runs tokens).IsChain fun left right =>
        ∀ a ∈ left.getLast?, ∀ b ∈ right.head?, a.Meets q b := by
      rw [← List.flatten_splitBy (fun a b : Token => a.isQuoted && b.isQuoted) tokens] at meet
      exact ((List.isChain_flatten (List.nil_notMem_splitBy _ _)).mp meet).2
    have apart := List.isChain_getLast_head_splitBy
      (fun a b : Token => a.isQuoted && b.isQuoted) tokens
    rw [List.isChain_map]
    rw [List.isChain_iff_forall_rel_of_append_cons_cons] at borders apart ⊢
    intro left right before behind split c head
    have mem_left : left ∈ runs tokens := by simp [split]
    have mem_right : right ∈ runs tokens := by simp [split]
    obtain ⟨left_ne, right_ne, differ⟩ := apart split
    have last := List.getLast?_eq_some_getLast left_ne
    have first := List.head?_eq_some_head right_ne
    have keeps := (borders split _ last _ first).resolve_right fun both => by simp [both] at differ
    rw [continues_fused mem_left last]
    refine keeps c ?_
    rw [(shaped_fused mem_right shaped).1, head?_sources fun token mem =>
      stand token (mem_of_mem_runs mem_right mem), first] at head
    exact head

/-- Only quoted identifiers are read as something else. -/
theorem filter_runs (tokens : List Token) (quote : Char) :
    ((runs tokens).map (fused quote)).filter (!·.isQuoted) = tokens.filter (!·.isQuoted) := by
  have same : ∀ run ∈ runs tokens, [fused quote run].filter (!·.isQuoted) =
      run.filter (!·.isQuoted) := by
    intro run mem
    obtain ⟨token, rfl⟩ | ⟨a, b, rest, rfl, quoted⟩ := alone_or_quoted mem
    · rfl
    · have none_bare : (a :: b :: rest).filter (!·.isQuoted) = [] :=
        List.filter_eq_nil_iff.mpr fun token mem => by simp [quoted token mem]
      rw [none_bare]
      rfl
  calc
    ((runs tokens).map (fused quote)).filter (!·.isQuoted)
        = (runs tokens).flatMap fun run => run.filter (!·.isQuoted) := by
          rw [List.map_eq_flatMap, List.filter_flatMap]
          exact List.flatMap_congr same
    _ = (runs tokens).flatten.filter (!·.isQuoted) := by
          rw [List.flatten_eq_flatMap, List.filter_flatMap]
          rfl
    _ = tokens.filter (!·.isQuoted) := by rw [runs, List.flatten_splitBy]

end

end Token
end Sql
end ObjectQuery
