import Mathlib
import OrderSheet.Proofs.Yaml.Blocks
import OrderSheet.Yaml.Construct

/-!
# From a written document to its value

The tokens of a block make up a tree, and the tree becomes the value that the block stands for.
Texts come back as they are reread; entries keep their order.
-/

namespace OrderSheet.Yaml

open Compose

variable {rest : List Token} {handles : List (List Char × List Char)} {fault : Fault} {fuel : Nat}

namespace Block

mutual

def tree : Block → Node
  | .text cs => .scalar .str (reread cs) true
  | .bare cs => .scalar (resolve cs) cs true
  | .sequence items => .sequence .seq (itemTrees items)
  | .mapping entries => .mapping .map (entryTrees entries)

def itemTrees : List Block → List Node
  | [] => []
  | b :: bs => tree b :: itemTrees bs

def entryTrees : List (List Char × Block) → List (Node × Node)
  | [] => []
  | (k, b) :: es => (.scalar .str k true, tree b) :: entryTrees es

end

end Block

namespace Compose

theorem node_scalar (text : List Char) (plain whole block unindented : Bool) :
    node (fuel + 1) block unindented ⟨.scalar text plain whole :: rest, [], handles, fault⟩ =
      .ok (.scalar (scalarTag none plain text) text whole, ⟨rest, [], handles, fault⟩) := by
  rw [node]
  rfl

theorem node_brackets (block unindented : Bool) :
    node (fuel + 2) block unindented ⟨.openSequence :: .closeSequence :: rest, [], handles, fault⟩ =
      .ok (.sequence .seq [], ⟨rest, [], handles, fault⟩) := by
  rw [node]
  rfl

theorem node_braces (block unindented : Bool) :
    node (fuel + 2) block unindented ⟨.openMapping :: .closeMapping :: rest, [], handles, fault⟩ =
      .ok (.mapping .map [], ⟨rest, [], handles, fault⟩) := by
  rw [node]
  rfl

theorem peek_apply (t : Token) (ts : List Token) :
    peek ⟨t :: ts, [], handles, fault⟩ = .ok (t, ⟨t :: ts, [], handles, fault⟩) := rfl

/-- Without an anchor a collection is what has been gathered. -/
theorem collect_none {α : Type} {s t : Composer} {fill : Compose α} {a : α} (f : α → Node)
    (empty : Node) (h : fill s = .ok (a, t)) :
    collect none empty (f <$> fill) s = .ok (f a, t) := by
  rw [collect, map_eq_pure_bind, bind_of_eq h]
  rfl

theorem node_items {ts : List Token} {ns : List Node}
    (h : unindentedItems fuel [] ⟨.entry :: ts, [], handles, fault⟩ = .ok (ns, ⟨rest, [], handles, fault⟩)) :
    node (fuel + 1) true true ⟨.entry :: ts, [], handles, fault⟩ =
      .ok (.sequence .seq ns, ⟨rest, [], handles, fault⟩) := by
  have hproperties : properties ⟨.entry :: ts, [], handles, fault⟩ =
    .ok ((none, none), ⟨.entry :: ts, [], handles, fault⟩) := rfl
  have hanchor : checkAnchor none ⟨.entry :: ts, [], handles, fault⟩ =
    .ok ((), ⟨.entry :: ts, [], handles, fault⟩) := rfl
  rw [node, bind_of_eq (peek_apply _ _)]
  dsimp only
  rw [bind_of_eq hproperties]
  dsimp only
  rw [bind_of_eq (peek_apply _ _), bind_of_eq hanchor]
  dsimp only
  rw [if_pos (by simp)]
  exact collect_none _ _ h

theorem node_entries {ts : List Token} {es : List (Node × Node)} (unindented : Bool)
    (h : blockEntries fuel [] ⟨ts, [], handles, fault⟩ = .ok (es, ⟨rest, [], handles, fault⟩)) :
    node (fuel + 1) true unindented ⟨.blockMapping :: ts, [], handles, fault⟩ =
      .ok (.mapping .map es, ⟨rest, [], handles, fault⟩) := by
  have hproperties : properties ⟨.blockMapping :: ts, [], handles, fault⟩ =
    .ok ((none, none), ⟨.blockMapping :: ts, [], handles, fault⟩) := rfl
  have hanchor : checkAnchor none ⟨.blockMapping :: ts, [], handles, fault⟩ =
    .ok ((), ⟨.blockMapping :: ts, [], handles, fault⟩) := rfl
  have hadvance : advance ⟨.blockMapping :: ts, [], handles, fault⟩ =
    .ok ((), ⟨ts, [], handles, fault⟩) := rfl
  rw [node, bind_of_eq (peek_apply _ _)]
  dsimp only
  rw [bind_of_eq hproperties]
  dsimp only
  rw [bind_of_eq (peek_apply _ _), bind_of_eq hanchor]
  dsimp only
  rw [if_neg (by simp), if_neg (by simp), if_pos (by simp), bind_of_eq hadvance]
  exact collect_none _ _ h

theorem scalarTag_reread (cs : List Char) :
    scalarTag none (styleOf cs == .plain) (reread cs) = .str := by
  by_cases hstyle : styleOf cs = .plain
  · rw [scalarTag, reread, hstyle]
    exact (plainText_of_style hstyle).2.1
  · rw [scalarTag, beq_false_of_ne hstyle]
    rfl

theorem accept_self (t : Token) (ts : List Token) :
    accept t ⟨t :: ts, [], handles, fault⟩ = .ok (true, ⟨ts, [], handles, fault⟩) := by
  rw [accept, bind_of_eq (peek_apply _ _), if_pos (by simp)]
  rfl

theorem accept_other {t u : Token} {ts : List Token} (h : u ≠ t) :
    accept t ⟨u :: ts, [], handles, fault⟩ = .ok (false, ⟨u :: ts, [], handles, fault⟩) := by
  rw [accept, bind_of_eq (peek_apply _ _), if_neg (by simpa using h)]
  rfl

theorem nodeUnless_apply {ends ts : List Token} {t : Token} (block unindented : Bool)
    (h : t ∉ ends) :
    nodeUnless (fuel + 1) ends block unindented ⟨t :: ts, [], handles, fault⟩ =
      node fuel block unindented ⟨t :: ts, [], handles, fault⟩ := by
  have hsees : sees ends ⟨t :: ts, [], handles, fault⟩ = .ok (false, ⟨t :: ts, [], handles, fault⟩) := by
    simp [sees, bind_apply, peek_apply, pure_apply, h]
  rw [nodeUnless, bind_of_eq hsees, if_neg (by simp)]

/-- The tokens of a block begin with none that ends a value. -/
theorem head_tokens (b : Block) : ∃ t ts, b.tokens = t :: ts ∧
    t ∉ [Token.key, .value, .blockEnd] := by
  cases b with
  | text cs => exact ⟨_, _, Block.tokens.eq_1 cs, by simp⟩
  | bare cs => exact ⟨_, _, Block.tokens.eq_2 cs, by simp⟩
  | sequence items =>
    cases items with
    | nil => exact ⟨_, _, Block.tokens.eq_3, by simp⟩
    | cons b bs => exact ⟨_, _, Block.tokens.eq_5 (b :: bs) (by simp), by simp⟩
  | mapping entries =>
    cases entries with
    | nil => exact ⟨_, _, Block.tokens.eq_4, by simp⟩
    | cons e es => exact ⟨_, _, Block.tokens.eq_6 (e :: es) (by simp), by simp⟩

theorem unindentedItems_tokens {items : List Block} (found : List Node)
    (hitems : ∀ b ∈ items, ∃ cs, b = .text cs) {next : Token} (hnext : next ≠ .entry)
    (hfuel : 2 * items.length + 1 ≤ fuel) :
    unindentedItems fuel found ⟨Block.itemTokens items ++ next :: rest, [], handles, fault⟩ =
      .ok (found.reverse ++ Block.itemTrees items, ⟨next :: rest, [], handles, fault⟩) := by
  induction items generalizing found fuel with
  | nil =>
    obtain ⟨fuel, rfl⟩ : ∃ k, fuel = k + 1 := ⟨fuel - 1, by omega⟩
    rw [Block.itemTokens, List.nil_append, unindentedItems, bind_of_eq (accept_other hnext),
      if_neg (by simp), Block.itemTrees, List.append_nil]
    rfl
  | cons b bs ih =>
    obtain ⟨cs, rfl⟩ := hitems b (by simp)
    obtain ⟨fuel, rfl⟩ : ∃ k, fuel = k + 1 + 1 + 1 := ⟨fuel - 3, by simp at hfuel; omega⟩
    have hlength : 2 * bs.length + 1 ≤ fuel + 1 + 1 := by
      rw [List.length_cons] at hfuel
      omega
    have hrec := ih (.scalar .str (reread cs) true :: found)
      (fun b hb => hitems b (by simp [hb])) hlength
    have hnode : nodeUnless (fuel + 1 + 1) [.entry, .key, .value, .blockEnd] true false
        ⟨.scalar (reread cs) (styleOf cs == .plain) true :: (Block.itemTokens bs ++ next :: rest),
          [], handles, fault⟩ =
        .ok (.scalar .str (reread cs) true,
          ⟨Block.itemTokens bs ++ next :: rest, [], handles, fault⟩) := by
      rw [nodeUnless_apply _ _ (by simp), node_scalar, scalarTag_reread]
    have htokens : Block.itemTokens (.text cs :: bs) ++ next :: rest =
        .entry :: .scalar (reread cs) (styleOf cs == .plain) true ::
          (Block.itemTokens bs ++ next :: rest) := by
      simp [Block.itemTokens, Block.tokens]
    rw [htokens, unindentedItems, bind_of_eq (accept_self _ _), if_pos rfl, bind_of_eq hnode, hrec,
      Block.itemTrees, Block.tree, List.reverse_cons, List.append_assoc]
    rfl

theorem length_itemTokens {items : List Block} (hitems : ∀ b ∈ items, ∃ cs, b = .text cs) :
    (Block.itemTokens items).length = 2 * items.length := by
  induction items with
  | nil => rfl
  | cons b bs ih =>
    obtain ⟨cs, rfl⟩ := hitems b (by simp)
    have hrec := ih fun b hb => hitems b (by simp [hb])
    simp only [Block.itemTokens, Block.tokens, List.length_append, List.length_cons,
      List.length_nil, hrec]
    omega

theorem head_entryTokens (es : List (List Char × Block)) (rest : List Token) :
    ∃ t ts, Block.entryTokens es ++ .blockEnd :: rest = t :: ts ∧ t ≠ .entry := by
  cases es with
  | nil => exact ⟨_, _, rfl, by simp⟩
  | cons e es => exact ⟨.key, _, by rw [Block.entryTokens]; rfl, by simp⟩

mutual

theorem node_tokens (b : Block) {column : Nat} (fuel : Nat) {next : Token} {rest : List Token}
    (hb : b.Readable column) (hnext : next ≠ .entry) (hfuel : 2 * b.tokens.length ≤ fuel) :
    node fuel true true ⟨b.tokens ++ next :: rest, [], handles, fault⟩ =
      .ok (b.tree, ⟨next :: rest, [], handles, fault⟩) :=
  match b with
  | .text cs => by
    rw [Block.tokens] at hfuel ⊢
    obtain ⟨fuel, rfl⟩ : ∃ k, fuel = k + 1 := ⟨fuel - 1, by simp at hfuel; omega⟩
    rw [List.singleton_append, node_scalar, scalarTag_reread, Block.tree]
  | .bare cs => by
    rw [Block.tokens] at hfuel ⊢
    obtain ⟨fuel, rfl⟩ : ∃ k, fuel = k + 1 := ⟨fuel - 1, by simp at hfuel; omega⟩
    rw [List.singleton_append, node_scalar, Block.tree]
    rfl
  | .sequence [] => by
    rw [Block.tokens] at hfuel ⊢
    obtain ⟨fuel, rfl⟩ : ∃ k, fuel = k + 2 := ⟨fuel - 2, by simp at hfuel; omega⟩
    exact node_brackets true true
  | .mapping [] => by
    rw [Block.tokens] at hfuel ⊢
    obtain ⟨fuel, rfl⟩ : ∃ k, fuel = k + 2 := ⟨fuel - 2, by simp at hfuel; omega⟩
    exact node_braces true true
  | .sequence (b :: bs) => by
    rw [Block.Readable] at hb
    rw [Block.tokens.eq_5 _ (by simp)] at hfuel ⊢
    have hlength := length_itemTokens hb.2
    rw [List.length_cons] at hlength
    obtain ⟨fuel, rfl⟩ : ∃ k, fuel = k + 1 := ⟨fuel - 1, by omega⟩
    have hlength' : 2 * (b :: bs).length + 1 ≤ fuel := by
      rw [List.length_cons]
      omega
    rw [Block.tree]
    exact node_items (unindentedItems_tokens [] hb.2 hnext hlength')
  | .mapping (e :: es) => by
    rw [Block.Readable] at hb
    rw [Block.tokens.eq_6 _ (by simp)] at hfuel ⊢
    obtain ⟨fuel, rfl⟩ : ∃ k, fuel = k + 1 := ⟨fuel - 1, by simp at hfuel; omega⟩
    have hlength : 2 * (Block.entryTokens (e :: es)).length + 1 ≤ fuel := by
      simp only [List.length_append, List.length_cons, List.length_nil] at hfuel
      omega
    have hend : .blockMapping :: Block.entryTokens (e :: es) ++ [.blockEnd] ++ next :: rest =
        .blockMapping :: (Block.entryTokens (e :: es) ++ .blockEnd :: next :: rest) := by simp
    rw [hend, Block.tree]
    exact node_entries true (blockEntries_tokens (e :: es) [] hb hlength)

theorem blockEntries_tokens (es : List (List Char × Block)) {column fuel : Nat}
    {rest : List Token} (found : List (Node × Node)) (hes : Block.ReadableEntries column es)
    (hfuel : 2 * (Block.entryTokens es).length + 1 ≤ fuel) :
    blockEntries fuel found ⟨Block.entryTokens es ++ .blockEnd :: rest, [], handles, fault⟩ =
      .ok (found.reverse ++ Block.entryTrees es, ⟨rest, [], handles, fault⟩) :=
  match es with
  | [] => by
    obtain ⟨fuel, rfl⟩ : ∃ k, fuel = k + 1 := ⟨fuel - 1, by omega⟩
    rw [Block.entryTokens, List.nil_append, blockEntries, bind_of_eq (accept_other (by simp)),
      if_neg (by simp), bind_of_eq (accept_self _ _), if_pos rfl, Block.entryTrees, List.append_nil]
    rfl
  | (k, b) :: es => by
    rw [Block.ReadableEntries] at hes
    obtain ⟨⟨hk, hstyle⟩, hb, hes⟩ := hes
    rw [Block.entryTokens] at hfuel
    simp only [List.length_append, List.length_cons] at hfuel
    obtain ⟨fuel, rfl⟩ : ∃ k, fuel = k + 1 + 1 + 1 := ⟨fuel - 3, by omega⟩
    obtain ⟨next, us, hends, hnext⟩ := head_entryTokens es rest
    obtain ⟨t, ts, hts, ht⟩ := head_tokens b
    have hkey (ts : List Token) :
        nodeUnless (fuel + 1 + 1) [.key, .value, .blockEnd] true true
          ⟨.scalar k true true :: ts, [], handles, fault⟩ =
        .ok (.scalar .str k true, ⟨ts, [], handles, fault⟩) := by
      have hresolve := (plainText_of_style hstyle).2.1
      rw [nodeUnless_apply _ _ (by simp), node_scalar, scalarTag, if_pos rfl, hresolve]
    have hvalue : nodeUnless (fuel + 1 + 1) [.key, .value, .blockEnd] true true
          ⟨b.tokens ++ (Block.entryTokens es ++ .blockEnd :: rest), [], handles, fault⟩ =
        .ok (b.tree, ⟨Block.entryTokens es ++ .blockEnd :: rest, [], handles, fault⟩) := by
      have hnode := @node_tokens b _ (fuel + 1) next us hb hnext (by omega)
      rw [hends, hts, List.cons_append, nodeUnless_apply _ _ ht, ← List.cons_append, ← hts, hnode]
    have hlength : 2 * (Block.entryTokens es).length + 1 ≤ fuel + 1 + 1 := by omega
    have htokens : Block.entryTokens ((k, b) :: es) ++ .blockEnd :: rest =
        .key :: .scalar k true true :: .value ::
          (b.tokens ++ (Block.entryTokens es ++ .blockEnd :: rest)) := by
      simp [Block.entryTokens]
    rw [htokens, blockEntries, bind_of_eq (accept_self _ _), if_pos rfl, bind_of_eq (hkey _),
      bind_of_eq (accept_self _ _), if_pos rfl, bind_of_eq hvalue]
    refine (blockEntries_tokens es _ hes hlength).trans ?_
    rw [Block.entryTrees, List.reverse_cons, List.append_assoc]
    rfl

end

theorem document_tokens {entries : List (List Char × Block)} {room : Nat} (hne : entries ≠ [])
    (h : Block.ReadableEntries 0 entries)
    (hroom : ((Block.mapping entries).tokens ++ [Token.streamEnd]).length ≤ room) :
    ∃ t, document room ⟨(Block.mapping entries).tokens ++ [.streamEnd], [], [], fault⟩ =
      .ok (some (Block.mapping entries).tree, t) := by
  have htokens := Block.tokens.eq_6 entries hne
  have hlength : 2 * (Block.entryTokens entries).length + 1 ≤ 4 * room + 7 := by
    rw [htokens] at hroom
    simp only [List.length_append, List.length_cons] at hroom
    omega
  have hahead : (Block.mapping entries).tokens ++ [Token.streamEnd] =
      .blockMapping :: (Block.entryTokens entries ++ .blockEnd :: [.streamEnd]) := by
    rw [htokens]
    simp
  have hnode : node (4 * room + 8) true false
      ⟨.blockMapping :: (Block.entryTokens entries ++ .blockEnd :: [.streamEnd]), [],
        defaultHandles, fault⟩ =
      .ok ((Block.mapping entries).tree, ⟨[.streamEnd], [], defaultHandles, fault⟩) := by
    rw [Block.tree]
    exact node_entries false (blockEntries_tokens entries [] h hlength)
  have hskip : skipEnds (4 * room + 8) ⟨[.streamEnd], [], defaultHandles, fault⟩ =
      .ok ((), ⟨[.streamEnd], [], defaultHandles, fault⟩) := by
    rw [skipEnds, bind_of_eq (accept_other (by simp)), if_neg (by simp)]
    rfl
  rw [hahead, document]
  dsimp only
  rw [bind_of_eq (accept_other (by simp)), if_neg (by simp), bind_of_eq (peek_apply _ _)]
  have hhandles : (modify fun s => { s with handles := defaultHandles } : Compose Unit)
      ⟨.blockMapping :: (Block.entryTokens entries ++ .blockEnd :: [.streamEnd]), [], [], fault⟩ =
      .ok ((), ⟨.blockMapping :: (Block.entryTokens entries ++ .blockEnd :: [.streamEnd]), [],
        defaultHandles, fault⟩) := rfl
  rw [if_neg (by simp [isDirective]), bind_of_eq hhandles, bind_of_eq hnode, bind_of_eq hskip,
    bind_of_eq (accept_self _ _), if_pos rfl]
  exact ⟨_, rfl⟩

end Compose

theorem compose_print {entries : List (List Char × Block)} (hne : entries ≠ [])
    (h : Block.ReadableEntries 0 entries) :
    compose (print entries).toList = .ok (some (Block.mapping entries).tree) := by
  obtain ⟨t, ht⟩ := @Compose.document_tokens .malformed entries _ hne h le_rfl
  rw [compose, tokens_print hne h]
  simp only [bind, ok_bind, ht]
  rfl

def Stands (column : Nat) (b : Block) (d : Data) : Prop :=
  b.Readable column ∧ build b.tree = .ok d

theorem Stands.text {column : Nat} (cs : List Char) (hcolumn : column + 2 < Pen.lineWidth) :
    Stands column (.text cs) (.text (String.ofList (reread cs))) :=
  ⟨hcolumn, rfl⟩

end OrderSheet.Yaml
