import Checkup.Proofs.YamlTokens
import Checkup.Yaml.Node

/-!
# Faults of documents

Reading nodes from tokens only goes forth among the tokens, and it fails with a fault only
where a token tells of it. So a document that cannot be read for a fault has that fault
among its tokens.
-/

namespace Checkup.Yaml

variable {α β : Type}

/-- Something is read at the head of some tokens: some of them are left, and a fault is
among them. -/
structure Consumes (tokens : List Token) (result : Except Flaw (Found α)) : Prop where
  blames : Blames result fun fault => .broken (.fault fault) ∈ tokens
  rest : ∀ found, result = .ok found → found.rest <:+ tokens

/-- Tokens that are not expected are to blame if they tell of a fault. -/
theorem unexpected_blames (tokens : List Token) :
    Blames (unexpected tokens : Except Flaw α) fun fault => .broken (.fault fault) ∈ tokens := by
  intro fault hf
  unfold unexpected at hf
  split at hf
  · next flaw rest =>
    cases hf
    exact List.mem_cons_self
  · cases hf

namespace Consumes

variable {tokens rest whole : List Token}

theorem ok {found : Found α} (h : found.rest <:+ tokens) : Consumes tokens (.ok found) where
  blames := .ok _
  rest other hf := by
    cases hf
    exact h

theorem malformed : Consumes tokens (.error .malformed : Except Flaw (Found α)) where
  blames := .malformed
  rest found hf := by cases hf

theorem unexpected (tokens : List Token) : Consumes tokens (unexpected tokens : Except Flaw (Found α)) where
  blames := unexpected_blames tokens
  rest found hf := by
    unfold Yaml.unexpected at hf
    split at hf
    · cases hf
    · cases hf

/-- What is read at the head of later tokens is read of all. -/
theorem of_suffix {result : Except Flaw (Found α)} (h : Consumes rest result) (hs : rest <:+ tokens) :
    Consumes tokens result where
  blames := h.blames.mono fun _ hf => hs.subset hf
  rest found hf := (h.rest found hf).trans hs

/-- One thing is read behind another. -/
theorem bind {first : Except Flaw (Found α)} {next : Found α → Except Flaw (Found β)}
    (h : Consumes tokens first) (hn : ∀ found, Consumes found.rest (next found)) :
    Consumes tokens (first >>= next) := by
  cases first with
  | error flaw => exact ⟨h.blames.error, fun found hf => by cases hf⟩
  | ok found => exact (hn found).of_suffix (h.rest found rfl)

/-- Something is read after a step that reads nothing and is never a fault. -/
theorem after {first : Except Flaw β} {next : β → Except Flaw (Found α)} (h : Blames first fun _ => False)
    (hn : ∀ value, Consumes tokens (next value)) : Consumes tokens (first >>= next) := by
  cases first with
  | error flaw => exact ⟨fun fault hf => by cases hf; exact (h fault rfl).elim, fun found hf => by cases hf⟩
  | ok value => exact hn value

/-- What is made of what was read does not change what is left. -/
theorem map {result : Except Flaw (Found α)} (h : Consumes tokens result) {f : Found α → Found β}
    (hf : ∀ found, (f found).rest = found.rest) : Consumes tokens (result.map f) := by
  cases result with
  | error flaw => exact ⟨h.blames.error, fun found hf => by cases hf⟩
  | ok found => exact .ok ((hf found).symm ▸ h.rest found rfl)

end Consumes

/-- Properties leave some of the tokens. -/
theorem properties_suffix (tokens : List Token) : (properties tokens).2 <:+ tokens := by
  unfold properties
  split
  · next name tag rest => exact (List.suffix_cons _ rest).trans (List.suffix_cons _ _)
  · next tag name rest => exact (List.suffix_cons _ rest).trans (List.suffix_cons _ _)
  · next name rest _ => exact List.suffix_cons _ rest
  · next tag rest _ => exact List.suffix_cons _ rest
  · exact List.suffix_rfl

/-- A tag is never a fault. -/
theorem resolveTag_blames (handles : List (String × String)) (tag : TagText) {cause : Fault → Prop} :
    Blames (resolveTag handles tag) cause := by
  unfold resolveTag
  dsimp only
  split
  · exact .ok _
  · split
    · exact .ok _
    · exact .malformed

/-- All that reads nodes with some fuel reads at the head of its tokens. -/
structure Readers (fuel : Nat) : Prop where
  node : ∀ site context tokens, Consumes tokens (readNode fuel site context tokens)
  content : ∀ site context properties tag tokens,
    Consumes tokens (readContent fuel site context properties tag tokens)
  optional : ∀ ends site context tokens, Consumes tokens (readOptional fuel ends site context tokens)
  blockItems : ∀ context tokens, Consumes tokens (readBlockItems fuel context tokens)
  flatEntries : ∀ context tokens, Consumes tokens (readFlatEntries fuel context tokens)
  blockEntries : ∀ context tokens, Consumes tokens (readBlockEntries fuel context tokens)
  flowPair : ∀ close context tokens, Consumes tokens (readFlowPair fuel close context tokens)
  flowItems : ∀ isFirst context tokens, Consumes tokens (readFlowItems fuel isFirst context tokens)
  flowItem : ∀ context tokens, Consumes tokens (readFlowItem fuel context tokens)
  flowEntries : ∀ isFirst context tokens, Consumes tokens (readFlowEntries fuel isFirst context tokens)
  flowEntry : ∀ context tokens, Consumes tokens (readFlowEntry fuel context tokens)

namespace Readers

variable {fuel : Nat}

/-- Without fuel the tokens are not expected. -/
theorem zero : Readers 0 where
  node site context tokens := by rw [readNode]; exact .unexpected tokens
  content site context properties tag tokens := by rw [readContent]; exact .unexpected tokens
  optional ends site context tokens := by rw [readOptional]; exact .unexpected tokens
  blockItems context tokens := by rw [readBlockItems]; exact .unexpected tokens
  flatEntries context tokens := by rw [readFlatEntries]; exact .unexpected tokens
  blockEntries context tokens := by rw [readBlockEntries]; exact .unexpected tokens
  flowPair close context tokens := by rw [readFlowPair]; exact .unexpected tokens
  flowItems isFirst context tokens := by rw [readFlowItems]; exact .unexpected tokens
  flowItem context tokens := by rw [readFlowItem]; exact .unexpected tokens
  flowEntries isFirst context tokens := by rw [readFlowEntries]; exact .unexpected tokens
  flowEntry context tokens := by rw [readFlowEntry]; exact .unexpected tokens

theorem readNode_succ (h : Readers fuel) (site : Site) (context : Context) (tokens : List Token) :
    Consumes tokens (readNode (fuel + 1) site context tokens) := by
  unfold readNode
  split
  · next name rest =>
    split
    · exact .ok (List.suffix_cons _ rest)
    · exact .malformed
  · have hrest := properties_suffix tokens
    generalize properties tokens = read at hrest ⊢
    obtain ⟨properties, rest⟩ := read
    have hcontent (tag : TagName) :
        Consumes tokens (if properties.anchor.any fun name => (context.anchors.lookup name).isSome then
          .error .malformed else readContent fuel site context properties tag rest) := by
      split
      · exact .malformed
      · exact (h.content site context properties tag rest).of_suffix hrest
    dsimp only
    split
    · exact hcontent .none
    · next tag _ => exact .after (resolveTag_blames context.handles tag) hcontent

theorem readContent_succ (h : Readers fuel) (site : Site) (context : Context) (properties : Properties)
    (tag : TagName) (tokens : List Token) :
    Consumes tokens (readContent (fuel + 1) site context properties tag tokens) := by
  unfold readContent
  extract_lets number leaf inSequence sequence inMapping mapping nothing
  have hnothing : Consumes tokens nothing := by
    unfold nothing
    split
    · exact .ok List.suffix_rfl
    · exact .unexpected tokens
  have hsequence {tokens : List Token} {found : Except Flaw (Found (List Nat))} (hf : Consumes tokens found) :
      Consumes tokens (sequence found) := hf.map fun _ => rfl
  have hmapping {tokens : List Token} {found : Except Flaw (Found (List (Nat × Nat)))}
      (hf : Consumes tokens found) : Consumes tokens (mapping found) := hf.map fun _ => rfl
  split
  · next rest =>
    split
    · exact hsequence (h.flatEntries inSequence _)
    · exact hnothing
  · next text isPlain rest => exact .ok (List.suffix_cons _ rest)
  · next rest => exact (hsequence (h.flowItems true inSequence rest)).of_suffix (List.suffix_cons _ rest)
  · next rest => exact (hmapping (h.flowEntries true inMapping rest)).of_suffix (List.suffix_cons _ rest)
  · next rest =>
    split
    · exact (hsequence (h.blockItems inSequence rest)).of_suffix (List.suffix_cons _ rest)
    · exact hnothing
  · next rest =>
    split
    · exact (hmapping (h.blockEntries inMapping rest)).of_suffix (List.suffix_cons _ rest)
    · exact hnothing
  · exact hnothing

theorem readOptional_succ (h : Readers fuel) (ends : List Token → Bool) (site : Site) (context : Context)
    (tokens : List Token) : Consumes tokens (readOptional (fuel + 1) ends site context tokens) := by
  unfold readOptional
  split
  · exact .ok List.suffix_rfl
  · exact h.node site context tokens

theorem readBlockItems_succ (h : Readers fuel) (context : Context) (tokens : List Token) :
    Consumes tokens (readBlockItems (fuel + 1) context tokens) := by
  unfold readBlockItems
  split
  · next rest =>
    refine .of_suffix ?_ (List.suffix_cons _ rest)
    refine (h.optional endsBlockEntry .block context rest).bind fun item => ?_
    exact (h.blockItems item.context item.rest).bind fun more => .ok List.suffix_rfl
  · next rest => exact .ok (List.suffix_cons _ rest)
  · exact .unexpected tokens

theorem readFlatEntries_succ (h : Readers fuel) (context : Context) (tokens : List Token) :
    Consumes tokens (readFlatEntries (fuel + 1) context tokens) := by
  unfold readFlatEntries
  split
  · next rest =>
    refine .of_suffix ?_ (List.suffix_cons _ rest)
    refine (h.optional endsFlatEntry .block context rest).bind fun item => ?_
    exact (h.flatEntries item.context item.rest).bind fun more => .ok List.suffix_rfl
  · exact .ok List.suffix_rfl

theorem readBlockEntries_succ (h : Readers fuel) (context : Context) (tokens : List Token) :
    Consumes tokens (readBlockEntries (fuel + 1) context tokens) := by
  unfold readBlockEntries
  split
  · next rest =>
    refine .of_suffix ?_ (List.suffix_cons _ rest)
    refine (h.optional endsBlockKey .blockEntry context rest).bind fun key => ?_
    extract_lets further
    have hfurther (value : Found Nat) : Consumes value.rest (further value) :=
      (h.blockEntries value.context value.rest).bind fun more => .ok List.suffix_rfl
    split
    · next rest hrest =>
      rw [hrest]
      refine .of_suffix ?_ (List.suffix_cons _ rest)
      exact (h.optional endsBlockKey .blockEntry key.context rest).bind hfurther
    · exact hfurther (blank key.context key.rest)
  · next rest => exact .ok (List.suffix_cons _ rest)
  · exact .unexpected tokens

theorem readFlowPair_succ (h : Readers fuel) (close : Token) (context : Context) (tokens : List Token) :
    Consumes tokens (readFlowPair (fuel + 1) close context tokens) := by
  unfold readFlowPair
  refine (h.optional (endsFlowKey close) .flow context tokens).bind fun key => ?_
  split
  · next rest hrest =>
    rw [hrest]
    refine .of_suffix ?_ (List.suffix_cons _ rest)
    exact (h.optional (endsFlowValue close) .flow key.context rest).bind fun value => .ok List.suffix_rfl
  · exact .ok List.suffix_rfl

theorem readFlowItems_succ (h : Readers fuel) (isFirst : Bool) (context : Context) (tokens : List Token) :
    Consumes tokens (readFlowItems (fuel + 1) isFirst context tokens) := by
  unfold readFlowItems
  split
  · next rest => exact .ok (List.suffix_cons _ rest)
  · next rest => exact .ok ((List.suffix_cons _ rest).trans (List.suffix_cons _ _))
  · next rest _ => exact (h.flowItem context rest).of_suffix (List.suffix_cons _ rest)
  · exact h.flowItem context tokens
  · exact .unexpected tokens

theorem readFlowItem_succ (h : Readers fuel) (context : Context) (tokens : List Token) :
    Consumes tokens (readFlowItem (fuel + 1) context tokens) := by
  unfold readFlowItem
  extract_lets further
  have hfurther (item : Found Nat) : Consumes item.rest (further item) :=
    (h.flowItems false item.context item.rest).bind fun more => .ok List.suffix_rfl
  split
  · next rest =>
    refine .of_suffix ?_ (List.suffix_cons _ rest)
    exact (h.flowPair .closeSequence _ rest).bind fun pair => hfurther ⟨_, pair.rest, _⟩
  · exact (h.node .flow context tokens).bind hfurther

theorem readFlowEntries_succ (h : Readers fuel) (isFirst : Bool) (context : Context) (tokens : List Token) :
    Consumes tokens (readFlowEntries (fuel + 1) isFirst context tokens) := by
  unfold readFlowEntries
  split
  · next rest => exact .ok (List.suffix_cons _ rest)
  · next rest => exact .ok ((List.suffix_cons _ rest).trans (List.suffix_cons _ _))
  · next rest _ => exact (h.flowEntry context rest).of_suffix (List.suffix_cons _ rest)
  · exact h.flowEntry context tokens
  · exact .unexpected tokens

theorem readFlowEntry_succ (h : Readers fuel) (context : Context) (tokens : List Token) :
    Consumes tokens (readFlowEntry (fuel + 1) context tokens) := by
  unfold readFlowEntry
  extract_lets further
  have hfurther (entry : Found (Nat × Nat)) : Consumes entry.rest (further entry) :=
    (h.flowEntries false entry.context entry.rest).bind fun more => .ok List.suffix_rfl
  split
  · next rest =>
    refine .of_suffix ?_ (List.suffix_cons _ rest)
    exact (h.flowPair .closeMapping context rest).bind hfurther
  · exact (h.node .flow context tokens).bind fun key => hfurther ⟨_, key.rest, _⟩

/-- With any fuel only what the tokens tell of is a fault. -/
theorem all (fuel : Nat) : Readers fuel := by
  induction fuel with
  | zero => exact zero
  | succ fuel ih =>
    exact {
      node := ih.readNode_succ
      content := ih.readContent_succ
      optional := ih.readOptional_succ
      blockItems := ih.readBlockItems_succ
      flatEntries := ih.readFlatEntries_succ
      blockEntries := ih.readBlockEntries_succ
      flowPair := ih.readFlowPair_succ
      flowItems := ih.readFlowItems_succ
      flowItem := ih.readFlowItem_succ
      flowEntries := ih.readFlowEntries_succ
      flowEntry := ih.readFlowEntry_succ }

end Readers

/-- Directives leave some of the tokens, and are never a fault. -/
theorem readDirectives_spec (hasVersion : Bool) (handles : List (String × String)) (tokens : List Token) :
    Blames (readDirectives hasVersion handles tokens) (fun _ => False) ∧
      ∀ found rest, readDirectives hasVersion handles tokens = .ok (found, rest) → rest <:+ tokens := by
  induction hasVersion, handles, tokens using readDirectives.induct with
  | case1 hasVersion handles major rest hwrong =>
    rw [readDirectives, if_pos hwrong]
    exact ⟨.malformed, fun found left hf => by cases hf⟩
  | case2 hasVersion handles major rest hright ih =>
    rw [readDirectives, if_neg hright]
    exact ⟨ih.1, fun found left hf => (ih.2 found left hf).trans (List.suffix_cons _ rest)⟩
  | case3 hasVersion handles name address rest hknown =>
    rw [readDirectives, if_pos hknown]
    exact ⟨.malformed, fun found left hf => by cases hf⟩
  | case4 hasVersion handles name address rest hnew ih =>
    rw [readDirectives, if_neg hnew]
    exact ⟨ih.1, fun found left hf => (ih.2 found left hf).trans (List.suffix_cons _ rest)⟩
  | case5 hasVersion handles rest ih =>
    rw [readDirectives]
    exact ⟨ih.1, fun found left hf => (ih.2 found left hf).trans (List.suffix_cons _ rest)⟩
  | case6 hasVersion handles tokens hversion hhandle hunknown =>
    rw [readDirectives]
    · refine ⟨.ok _, fun found left hf => ?_⟩
      cases hf
      exact List.suffix_rfl
    · exact hversion
    · exact hhandle
    · exact hunknown

theorem skipEnds_suffix (tokens : List Token) : skipEnds tokens <:+ tokens := by
  induction tokens using skipEnds.induct with
  | case1 rest ih =>
    rw [skipEnds]
    exact ih.trans (List.suffix_cons _ rest)
  | case2 tokens hne =>
    have hsame : skipEnds tokens = tokens := by
      rw [skipEnds]
      exact hne
    exact ⟨[], hsame⟩

theorem atEnd_blames (tokens : List Token) :
    Blames (atEnd tokens) fun fault => .broken (.fault fault) ∈ tokens := by
  unfold atEnd
  split
  · exact .ok _
  · exact (unexpected_blames _).mono fun _ hf => (skipEnds_suffix tokens).subset hf

/-- Behind the outermost node nothing but the end follows. -/
theorem Consumes.document {tokens : List Token} {result : Except Flaw (Found Nat)} (h : Consumes tokens result)
    (make : Found Nat → α) :
    Blames (do let found ← result; atEnd found.rest; .ok (make found)) fun fault =>
      .broken (.fault fault) ∈ tokens := by
  refine h.blames.bind fun found hfound => ?_
  have hend := (atEnd_blames found.rest).mono fun _ hf => (h.rest found hfound).subset hf
  exact hend.bind fun _ _ => .ok _

theorem markedDocument_blames (tokens : List Token) :
    Blames (markedDocument tokens) fun fault => .broken (.fault fault) ∈ tokens := by
  obtain ⟨hblames, hsuffix⟩ := readDirectives_spec false [] tokens
  refine (hblames.mono fun _ hf => hf.elim).bind fun (handles, rest) hread => ?_
  have hrest := hsuffix handles rest hread
  dsimp only
  split
  · next rest =>
    have hread := (Readers.all (nodeFuel (.documentStart :: rest))).optional endsDocument .block { handles } rest
    have hbehind := (List.suffix_cons _ rest).trans hrest
    exact (hread.document _).mono fun _ hf => hbehind.subset hf
  · exact (unexpected_blames rest).mono fun _ hf => hrest.subset hf

/-- A document cannot be read for a fault only if a token tells of it. -/
theorem document?_blames (tokens : List Token) :
    Blames (document? tokens) fun fault => .broken (.fault fault) ∈ tokens := by
  unfold document?
  split
  · exact (markedDocument_blames _).map some
  · exact (markedDocument_blames _).map some
  · exact .ok _
  · exact ((Readers.all (nodeFuel tokens)).node .block {} tokens).document _

end Checkup.Yaml
