import Mathlib.Data.List.InsertIdx
import Checkup.Proofs.YamlEscapes
import Checkup.Yaml.Token

/-!
# Faults of tokens

Cutting a text into tokens only goes forth in the text, and a token that tells of a flaw
is only ever put at the end. So a fault among the tokens is what is met behind the text or
is to blame on a wrong escape in it.
-/

namespace Checkup.Yaml

/-- A token that tells of a flaw. -/
def Token.isBroken : Token → Bool
  | broken _ => true
  | _ => false

/-- The rest behind the next character. -/
@[simp] theorem Cursor.step_rest (cursor : Cursor) : cursor.step.rest = cursor.rest.tail := by
  unfold Cursor.step
  split
  · next h => rw [h, List.tail_nil]
  · next c rest h =>
    rw [h, List.tail_cons]
    split
    · rfl
    · rfl

/-- The rest behind some characters. -/
@[simp] theorem Cursor.skip_rest (cursor : Cursor) (count : Nat) :
    (cursor.skip count).rest = cursor.rest.drop count := by
  induction count generalizing cursor with
  | zero => rfl
  | succ count ih => rw [Cursor.skip, ih, Cursor.step_rest, List.drop_tail]

namespace Lexer

variable {lexer further later : Lexer}

/-- A step goes forth in the text and tells of no new flaw. -/
structure Follows (lexer further : Lexer) : Prop where
  rest : further.rest <:+ lexer.rest
  broken : ∀ flaw, .broken flaw ∈ further.tokens → .broken flaw ∈ lexer.tokens

namespace Follows

theorem refl (lexer : Lexer) : Follows lexer lexer := ⟨List.suffix_rfl, fun _ h => h⟩

/-- Nothing but the bookkeeping changes. -/
theorem of_eq (hr : further.rest = lexer.rest) (ht : further.tokens = lexer.tokens) :
    Follows lexer further where
  rest := hr ▸ List.suffix_rfl
  broken _ h := ht ▸ h

theorem trans (h : Follows lexer further) (hl : Follows further later) : Follows lexer later where
  rest := hl.rest.trans h.rest
  broken flaw hf := h.broken flaw (hl.broken flaw hf)

/-- A token that tells of no flaw is put at the end. -/
theorem push (h : Follows lexer further) (token : Token) (ht : token.isBroken = false) :
    Follows lexer (further.push token) where
  rest := h.rest
  broken flaw hf := by
    rcases List.mem_cons.mp hf with rfl | hf
    · cases ht
    · exact h.broken flaw hf

/-- A token that tells of no flaw is put in. -/
theorem pushAt (h : Follows lexer further) (position : Nat) (token : Token)
    (ht : token.isBroken = false) :
    Follows lexer (further.pushAt position token) where
  rest := h.rest
  broken flaw hf := by
    rcases List.eq_or_mem_of_mem_insertIdx hf with rfl | hf
    · cases ht
    · exact h.broken flaw hf

theorem skip (h : Follows lexer further) (count : Nat) : Follows lexer (further.skip count) where
  rest := by
    have hskip : (further.skip count).rest = further.rest.drop count := Cursor.skip_rest _ _
    rw [hskip]
    exact (List.drop_suffix _ _).trans h.rest
  broken := h.broken

theorem moveTo (h : Follows lexer further) (rest : List Char) : Follows lexer (further.moveTo rest) :=
  h.skip _

theorem allowing (h : Follows lexer further) (allowsKey : Bool) : Follows lexer (further.allowing allowsKey) :=
  ⟨h.rest, h.broken⟩

theorem openBlock (h : Follows lexer further) (token : Token) (ht : token.isBroken = false) :
    Follows lexer (further.openBlock token) := by
  unfold Lexer.openBlock
  split
  · have henter : Follows lexer (further.enter further.cursor.column) := ⟨h.rest, h.broken⟩
    exact henter.push token ht
  · exact h

end Follows

theorem unwindFrom_follows (column : Int) (columns : List Int) (lexer : Lexer) :
    Follows lexer (unwindFrom column columns lexer) := by
  induction columns generalizing lexer with
  | nil => exact .refl lexer
  | cons outer more ih =>
    unfold unwindFrom
    split
    · have hout : Follows lexer { lexer with indent := outer, outer := more } := .of_eq rfl rfl
      exact (hout.push .blockEnd rfl).trans (ih _)
    · exact .refl lexer

theorem unwind_follows (lexer : Lexer) (column : Int) : Follows lexer (lexer.unwind column) := by
  unfold unwind
  split
  · exact .refl lexer
  · exact unwindFrom_follows column _ lexer

theorem toToken_follows (lexer : Lexer) : Follows lexer lexer.toToken := by
  have hmark : Follows lexer (if lexer.cursor.index = 0 && lexer.rest.head? = some '\uFEFF' then
      lexer.skip 1 else lexer) := by
    split
    · exact (Follows.refl lexer).skip 1
    · exact .refl lexer
  unfold toToken
  extract_lets start
  have hstart : Follows lexer start := hmark
  dsimp only
  split
  · exact (hstart.moveTo _).allowing true
  · exact hstart.moveTo _

theorem completeKey_follows (lexer : Lexer) (key : KeyStart) : Follows lexer (lexer.completeKey key) := by
  unfold completeKey
  extract_lets dropped keyed opened
  have hdropped : Follows lexer dropped := .of_eq rfl rfl
  have hkeyed : Follows lexer keyed := hdropped.pushAt key.position .key rfl
  refine Follows.allowing ?_ false
  unfold opened
  split
  · have henter : Follows lexer (keyed.enter key.column) := ⟨hkeyed.rest, hkeyed.broken⟩
    exact henter.pushAt key.position .blockMapping rfl
  · exact hkeyed

/-- A step that goes forth in the text, unless it fails; only a wrong escape is a fault. -/
structure Advances (lexer : Lexer) (result : Result) : Prop where
  blames : Blames result (HasWrongEscape lexer.rest)
  follows : ∀ further, result = .ok further → Follows lexer further

namespace Advances

theorem ok (h : Follows lexer further) : Advances lexer (.ok further) where
  blames := .ok _
  follows found hf := by
    cases hf
    exact h

theorem malformed : Advances lexer (.error .malformed) where
  blames := .malformed
  follows further hf := by cases hf

/-- What goes forth from a later place does so from an earlier one. -/
theorem of_follows {result : Result} (h : Follows lexer further) (hr : Advances further result) :
    Advances lexer result where
  blames := hr.blames.mono fun _ hf => hf.of_suffix h.rest
  follows found hf := h.trans (hr.follows found hf)

/-- One step or another. -/
theorem ite {first second : Result} {p : Prop} [Decidable p] (h : Advances lexer first)
    (hs : Advances lexer second) : Advances lexer (if p then first else second) := by
  split
  · exact h
  · exact hs

/-- One step after another. -/
theorem bind {first : Result} {next : Lexer → Result} (h : Advances lexer first)
    (hn : ∀ further, Advances further (next further)) : Advances lexer (first >>= next) := by
  cases first with
  | error flaw => exact ⟨h.blames.error, fun further hf => by cases hf⟩
  | ok further => exact (hn further).of_follows (h.follows further rfl)

end Advances

theorem dropKey_advances (lexer : Lexer) : Advances lexer lexer.dropKey := by
  unfold dropKey
  split
  · exact .ok (.refl lexer)
  · split
    · exact .malformed
    · exact .ok (.of_eq rfl rfl)

theorem saveKey_advances (lexer : Lexer) : Advances lexer lexer.saveKey := by
  unfold saveKey
  split
  · exact lexer.dropKey_advances.bind fun further => .ok (.of_eq rfl rfl)
  · exact .ok (.refl lexer)

theorem dropStaleKeys_advances (lexer : Lexer) : Advances lexer lexer.dropStaleKeys := by
  unfold dropStaleKeys
  split
  · exact .malformed
  · exact .ok (.of_eq rfl rfl)

theorem endDocument_advances (lexer : Lexer) : Advances lexer lexer.endDocument := by
  refine .of_follows (lexer.unwind_follows (-1)) ?_
  exact (dropKey_advances _).bind fun further => .ok ((Follows.refl further).allowing false)

theorem fetchDirective_advances (lexer : Lexer) : Advances lexer lexer.fetchDirective := by
  refine lexer.endDocument_advances.bind fun further => ?_
  split
  · next directive rest _ => exact .ok (((Follows.refl further).moveTo rest).push (.directive directive) rfl)
  · exact .malformed

theorem fetchMarker_advances (lexer : Lexer) (token : Token) (ht : token.isBroken = false) :
    Advances lexer (lexer.fetchMarker token) :=
  lexer.endDocument_advances.bind fun further => .ok (((Follows.refl further).skip 3).push token ht)

theorem fetchOpen_advances (lexer : Lexer) (token : Token) (ht : token.isBroken = false) :
    Advances lexer (lexer.fetchOpen token) := by
  refine lexer.saveKey_advances.bind fun further => .ok ?_
  have hopen : Follows further { further with depth := further.depth + 1, allowsKey := true } := .of_eq rfl rfl
  exact (hopen.skip 1).push token ht

theorem fetchClose_advances (lexer : Lexer) (token : Token) (ht : token.isBroken = false) :
    Advances lexer (lexer.fetchClose token) := by
  refine lexer.dropKey_advances.bind fun further => .ok ?_
  have hclose : Follows further { further with depth := further.depth - 1, allowsKey := false } := .of_eq rfl rfl
  exact (hclose.skip 1).push token ht

theorem fetchComma_advances (lexer : Lexer) : Advances lexer lexer.fetchComma :=
  lexer.dropKey_advances.bind fun further =>
    .ok ((((Follows.refl further).allowing true).skip 1).push .comma rfl)

theorem fetchEntry_advances (lexer : Lexer) : Advances lexer lexer.fetchEntry := by
  unfold fetchEntry
  split
  · exact .malformed
  · extract_lets opened
    have hopened : Follows lexer opened := by
      unfold opened
      split
      · exact .refl lexer
      · exact (Follows.refl lexer).openBlock .blockSequence rfl
    refine .of_follows hopened (opened.dropKey_advances.bind fun further => ?_)
    exact .ok ((((Follows.refl further).allowing true).skip 1).push .entry rfl)

/-- A mapping in block style may start in front of the sign of a key or of a value. -/
theorem openMapping_follows (lexer : Lexer) :
    Follows lexer (if lexer.inFlow then lexer else lexer.openBlock .blockMapping) := by
  split
  · exact .refl lexer
  · exact (Follows.refl lexer).openBlock .blockMapping rfl

theorem fetchKey_advances (lexer : Lexer) : Advances lexer lexer.fetchKey := by
  unfold fetchKey
  split
  · exact .malformed
  · refine .of_follows lexer.openMapping_follows ((dropKey_advances _).bind fun further => ?_)
    exact .ok ((((Follows.refl further).allowing _).skip 1).push .key rfl)

theorem fetchValue_advances (lexer : Lexer) : Advances lexer lexer.fetchValue := by
  unfold fetchValue
  split
  · next key _ => exact .ok (((lexer.completeKey_follows key).skip 1).push .value rfl)
  · split
    · exact .malformed
    · exact .ok (((lexer.openMapping_follows.allowing _).skip 1).push .value rfl)

theorem fetchNamed_advances {α : Type} (lexer : Lexer) (read : List Char → Option (α × List Char))
    (token : α → Token) (ht : ∀ found, (token found).isBroken = false) :
    Advances lexer (lexer.fetchNamed read token) := by
  refine lexer.saveKey_advances.bind fun further => ?_
  split
  · next found rest _ =>
    exact .ok ((((Follows.refl further).allowing false).moveTo rest).push (token found) (ht found))
  · exact .malformed

/-- Block scalars are never a fault. -/
theorem blockText_blames (folded : Bool) (outer : Int) (text : List Char) {cause : Fault → Prop} :
    Blames (blockText folded outer text) cause := by
  unfold blockText
  split
  · exact .malformed
  · exact .ok _

theorem fetchBlock_advances (lexer : Lexer) (folded : Bool) : Advances lexer (lexer.fetchBlock folded) := by
  have hallowing := (Follows.refl lexer).allowing true
  refine .of_follows hallowing ((dropKey_advances _).bind fun further => ?_)
  have hblames : Blames (blockText folded further.indent further.rest.tail) (HasWrongEscape further.rest) :=
    blockText_blames folded further.indent further.rest.tail
  cases hread : blockText folded further.indent further.rest.tail with
  | error flaw =>
    rw [hread] at hblames
    exact ⟨hblames.error, fun found hf => by cases hf⟩
  | ok read => exact .ok (((Follows.refl further).moveTo read.2).push (.scalar (String.ofList read.1) false) rfl)

theorem fetchQuoted_advances (lexer : Lexer) (double : Bool) : Advances lexer (lexer.fetchQuoted double) := by
  refine lexer.saveKey_advances.bind fun further => ?_
  have hread := (quotedText_readsOn double further.rest.tail).of_suffix (List.tail_suffix further.rest)
  cases hquoted : quotedText double further.rest.tail with
  | error flaw =>
    rw [hquoted] at hread
    exact ⟨hread.blames.error, fun found hf => by cases hf⟩
  | ok read =>
    have hmoved := ((Follows.refl further).allowing false).moveTo read.2
    exact .ok (hmoved.push (.scalar (String.ofList read.1) false) rfl)

theorem fetchPlain_advances (lexer : Lexer) : Advances lexer lexer.fetchPlain :=
  lexer.saveKey_advances.bind fun further =>
    .ok ((((Follows.refl further).allowing _).moveTo _).push (.scalar _ true) rfl)

/-- Whatever a token starts with, only a wrong escape is a fault. -/
theorem fetch_advances (lexer : Lexer) (c : Char) (rest : List Char) : Advances lexer (lexer.fetch c rest) := by
  refine .ite lexer.fetchDirective_advances ?_
  refine .ite (lexer.fetchMarker_advances .documentStart rfl) ?_
  refine .ite (lexer.fetchMarker_advances .documentEnd rfl) ?_
  refine .ite (lexer.fetchOpen_advances .openSequence rfl) ?_
  refine .ite (lexer.fetchOpen_advances .openMapping rfl) ?_
  refine .ite (lexer.fetchClose_advances .closeSequence rfl) ?_
  refine .ite (lexer.fetchClose_advances .closeMapping rfl) ?_
  refine .ite lexer.fetchComma_advances ?_
  refine .ite lexer.fetchEntry_advances ?_
  refine .ite lexer.fetchKey_advances ?_
  refine .ite lexer.fetchValue_advances ?_
  refine .ite (lexer.fetchNamed_advances anchorName? .aliasOf fun _ => rfl) ?_
  refine .ite (lexer.fetchNamed_advances anchorName? .anchor fun _ => rfl) ?_
  refine .ite (lexer.fetchNamed_advances tagText? .tag fun _ => rfl) ?_
  refine .ite (lexer.fetchBlock_advances false) ?_
  refine .ite (lexer.fetchBlock_advances true) ?_
  refine .ite (lexer.fetchQuoted_advances false) ?_
  refine .ite (lexer.fetchQuoted_advances true) ?_
  exact .ite lexer.fetchPlain_advances .malformed

theorem next_advances (lexer : Lexer) : Advances lexer lexer.next := by
  refine .of_follows lexer.toToken_follows ((dropStaleKeys_advances _).bind fun further => ?_)
  split
  · exact further.endDocument_advances.bind fun ended => .ok ((Follows.refl ended).push .done rfl)
  · exact .of_follows (further.unwind_follows _) (fetch_advances _ _ _)

/-- Broken off, the tokens tell of one more flaw. -/
theorem eq_or_mem_of_mem_breakOff {flaw told : Flaw} (h : .broken told ∈ lexer.breakOff flaw) :
    told = flaw ∨ .broken told ∈ lexer.tokens := by
  rcases List.mem_cons.mp (List.mem_reverse.mp h) with h | h
  · cases h
    exact .inl rfl
  · exact .inr (List.mem_of_mem_drop h)

/-- A fault among the tokens is told of by the first of them, is met behind the text, or is
to blame on a wrong escape. -/
theorem broken_mem_run {wall : Option Flaw} {fault : Fault} (lexer : Lexer)
    (h : .broken (.fault fault) ∈ lexer.run wall) :
    .broken (.fault fault) ∈ lexer.tokens ∨ wall = some (.fault fault) ∨ HasWrongEscape lexer.rest fault := by
  induction lexer using Lexer.run.induct wall with
  | case1 lexer hnext =>
    rw [run, hnext] at h
    rcases eq_or_mem_of_mem_breakOff h with hflaw | hmem
    · cases wall with
      | none => cases hflaw
      | some flaw => exact .inr (.inl (congrArg some hflaw.symm))
    · exact .inl hmem
  | case2 lexer flaw hne hnext =>
    have hbreak : lexer.run wall = lexer.breakOff flaw := by
      rw [run, hnext]
      cases flaw with
      | unfinished => exact absurd rfl hne
      | malformed => rfl
      | fault fault => rfl
    rw [hbreak] at h
    rcases eq_or_mem_of_mem_breakOff h with rfl | hmem
    · exact .inr (.inr (lexer.next_advances.blames fault hnext))
    · exact .inl hmem
  | case3 lexer further hnext flaw hend hwall =>
    have hbreak : lexer.run wall = lexer.breakOff flaw := by
      rw [run, hnext]
      dsimp only
      rw [hwall, hend]
    rw [hbreak] at h
    rcases eq_or_mem_of_mem_breakOff h with rfl | hmem
    · exact .inr (.inl hwall)
    · exact .inl hmem
  | case4 lexer further hnext hmore hwall ih =>
    have hfollows := lexer.next_advances.follows further hnext
    have hrun : lexer.run wall = further.run wall := by
      rw [run, hnext]
      dsimp only
      split
      · next flaw hend => exact (hwall flaw rfl hend).elim
      · rw [if_pos hmore]
    rw [hrun] at h
    rcases ih h with hmem | hmet | hescape
    · exact .inl (hfollows.broken _ hmem)
    · exact .inr (.inl hmet)
    · exact .inr (.inr (hescape.of_suffix hfollows.rest))
  | case5 lexer further hnext hlast hwall =>
    have hfollows := lexer.next_advances.follows further hnext
    have hrun : lexer.run wall = further.tokens.reverse := by
      rw [run, hnext]
      dsimp only
      split
      · next flaw hend => exact (hwall flaw rfl hend).elim
      · rw [if_neg hlast]
    rw [hrun, List.mem_reverse] at h
    exact .inl (hfollows.broken _ h)

end Lexer

/-- A fault among the tokens of a text is met behind it, or a wrong escape is to blame. -/
theorem broken_mem_tokens {supply : Supply} {fault : Fault} (h : .broken (.fault fault) ∈ tokens supply) :
    supply.wall = some (.fault fault) ∨ HasWrongEscape supply.text fault := by
  rcases Lexer.broken_mem_run _ h with hmem | hmet
  · cases hmem
  · exact hmet

end Checkup.Yaml
