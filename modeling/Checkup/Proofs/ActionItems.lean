import Mathlib.Data.List.Basic
import Checkup.ActionItem
import Checkup.Proofs.Grading
import Checkup.Proofs.PrintedNumbers
import Checkup.Proofs.ReportFiles
import Checkup.Proofs.TextPassages

/-!
# Items and the issues they stand for

Every group with an issue gives one item, which states how many issues there are and shows
the first few of them. The items are numbered without a gap, and issues of no group, like
the bounds between checks, leave no trace in them.

The rules of all groups but one start in ways that exclude each other, so an issue is of one
of these groups at most. The group of unused exports looks for its mark anywhere in a rule,
so an issue whose rule a project names after unused exports may be of another group, too.
Then both items count it.
-/

namespace Checkup

open Text

/-! ## Drafts -/

namespace ActionGroup

/-- The groups that some issue is of, in the order of all groups. -/
def concerned (issues : List Issue) : List ActionGroup :=
  all.filter fun group => issues.any group.selects

/-- The item of a group of issues and its number. -/
def itemOf (issues : List Issue) (group : ActionGroup) (number : Nat) : ActionItem where
  number := some number
  icon := group.icon
  title := group.title (issues.countP group.selects)
  details := ((issues.filter group.selects).take group.shown).flatMap group.detail

/-- A group with an issue has a draft of its item, any other has none. -/
theorem draft_eq (group : ActionGroup) (issues : List Issue) :
    group.draft issues = if issues.any group.selects then some (group.itemOf issues) else none := by
  have hany : issues.any group.selects = false ↔ issues.filter group.selects = [] := by
    rw [List.filter_eq_nil_iff, List.any_eq_false]
  unfold draft itemOf
  rw [List.countP_eq_length_filter]
  cases hs : issues.filter group.selects with
  | nil =>
    rw [hany.mpr hs]
    rfl
  | cons issue selected =>
    have htrue : issues.any group.selects = true := by
      rw [← Bool.not_eq_false]
      intro hfalse
      rw [hany.mp hfalse] at hs
      cases hs
    rw [if_pos htrue]

/-- The drafts are those of the groups that some issue is of. -/
theorem filterMap_draft (issues : List Issue) :
    all.filterMap (·.draft issues) = (concerned issues).map (itemOf issues) := by
  have hdraft : (fun group : ActionGroup => group.draft issues) = fun group =>
      if issues.any group.selects then some (group.itemOf issues) else none :=
    funext fun group => group.draft_eq issues
  unfold concerned
  rw [hdraft]
  induction all with
  | nil => rfl
  | cons group groups ih =>
    rw [List.filterMap_cons, List.filter_cons]
    split
    · next h =>
      split at h
      · cases h
      · next hno => rw [if_neg hno, ih]
    · next item h =>
      split at h
      · next hyes =>
        cases h
        rw [if_pos hyes, List.map_cons, ih]
      · cases h

end ActionGroup

/-- The items without the case of none. -/
theorem ActionItem.ofIssues_eq (issues : List Issue) :
    ofIssues issues = if ActionGroup.concerned issues = [] then [nothing] else
      (ActionGroup.concerned issues).mapIdx fun index group => group.itemOf issues (index + 1) := by
  unfold ofIssues
  rw [ActionGroup.filterMap_draft]
  cases hc : ActionGroup.concerned issues with
  | nil => rfl
  | cons group groups =>
    rw [if_neg (List.cons_ne_nil group groups)]
    refine List.ext_getElem? fun index => ?_
    change (((group :: groups).map (ActionGroup.itemOf issues)).mapIdx fun index draft =>
      draft (index + 1))[index]? = _
    rw [List.getElem?_mapIdx, List.getElem?_mapIdx, List.getElem?_map, Option.map_map]
    rfl

/-! ## What the titles state -/

/-- The number that the title of an item states. -/
def ActionItem.stated (item : ActionItem) : Nat := firstNumber item.title.toList

namespace ActionGroup

/-- The title of every group states the number of its issues. -/
theorem firstNumber_title {group : ActionGroup} (hg : group ∈ all) (n : Nat) :
    firstNumber (group.title n).toList = n := by
  have hsentence : ∀ before after : String, before.toList.all (fun c => !c.isDigit) = true →
      after.toList.head?.all (fun c => !c.isDigit) = true →
        firstNumber (before ++ toString n ++ after).toList = n := by
    intro before after hb ha
    refine firstNumber_sentence hb (fun c hc => ?_) n
    have hnot : (!c.isDigit) = true := by
      rw [Option.mem_def.mp hc] at ha
      exact ha
    rwa [Bool.not_eq_true'] at hnot
  simp only [all, List.mem_cons, List.not_mem_nil, or_false] at hg
  rcases hg with rfl | rfl | rfl | rfl | rfl | rfl | rfl | rfl
  case inr.inr.inr.inr.inr.inr.inr =>
    change firstNumber ("Fix " ++ toString n ++ " circular dependenc" ++ (if n = 1 then "y" else "ies") ++
      " - These can cause bundling issues").toList = n
    rw [String.append_assoc, String.append_assoc]
    refine hsentence _ _ (by decide) ?_
    rw [String.toList_append]
    rfl
  all_goals exact hsentence _ _ (by decide) (by decide)

/-- No group shows more than three issues, but for those that show five. -/
theorem shown_le {group : ActionGroup} (hg : group ∈ all) : group.shown ≤ 3 ∨ group.shown = 5 := by
  revert group
  decide

end ActionGroup

/-- An item tells of a group of issues. -/
structure ActionGroup.IsToldBy (group : ActionGroup) (issues : List Issue) (item : ActionItem) : Prop where
  /-- It has the icon of the group. -/
  icon : item.icon = group.icon
  /-- It says what to do about so many issues. -/
  title : item.title = group.title (issues.countP group.selects)
  /-- The number in its title is that of the issues of the group, however many are shown. -/
  stated : item.stated = issues.countP group.selects
  /-- Its details come from the first issues of the group. -/
  details : item.details = ((issues.filter group.selects).take group.shown).flatMap group.detail
  /-- These are no more than three, or five. -/
  few : group.shown ≤ 3 ∨ group.shown = 5

/-- Items tell of all issues. -/
structure ActionItem.Tells (issues : List Issue) (items : List ActionItem) : Prop where
  /-- Without an issue of any group there is nothing to do. -/
  nothing : ActionGroup.concerned issues = [] → items = [.nothing]
  /-- Else there is one item for each group with an issue, -/
  length : ActionGroup.concerned issues ≠ [] → items.length = (ActionGroup.concerned issues).length
  /-- in the order of the groups, and its place is its number. -/
  items : ∀ index group, (ActionGroup.concerned issues)[index]? = some group →
    ∃ item, items[index]? = some item ∧ item.number = some (index + 1) ∧ group.IsToldBy issues item

/-- The item of a group tells of it. -/
theorem ActionGroup.isToldBy_itemOf {group : ActionGroup} (hg : group ∈ all) (issues : List Issue)
    (number : Nat) : group.IsToldBy issues (group.itemOf issues number) where
  icon := rfl
  title := rfl
  stated := firstNumber_title hg _
  details := rfl
  few := shown_le hg

/-- The items of some issues tell of them. -/
theorem ActionItem.tells_ofIssues (issues : List Issue) : Tells issues (ofIssues issues) := by
  have hsome : ∀ {index : Nat} {group : ActionGroup},
      (ActionGroup.concerned issues)[index]? = some group → ActionGroup.concerned issues ≠ [] := by
    intro index group hg hn
    rw [hn] at hg
    cases hg
  rw [ofIssues_eq]
  constructor
  · exact fun hn => if_pos hn
  · intro hn
    rw [if_neg hn, List.length_mapIdx]
  · intro index group hg
    have hall : group ∈ ActionGroup.all := (List.mem_filter.mp (List.mem_of_getElem? hg)).1
    refine ⟨group.itemOf issues (index + 1), ?_, rfl, ActionGroup.isToldBy_itemOf hall issues _⟩
    rw [if_neg (hsome hg), List.getElem?_mapIdx, hg]
    rfl

/-! ## What leaves no trace -/

/-- An issue that the items do not depend on: it is of no group, and its rule is not odd. -/
structure Issue.IsPassedOver (issue : Issue) : Prop where
  group : ∀ group ∈ ActionGroup.all, group.selects issue = false
  rule : ¬issue.rule.IsOdd

/-- Checks that differ by issues of no group, and by the check that an issue belongs to. -/
inductive Check.Refiles : List Check → List Check → Prop
  /-- Some issues of no group are put in, anywhere, or a check of such issues. -/
  | gains {gained : List Issue} {first second : List Check} (h : Check.Gains gained first second)
      (hpassed : ∀ issue ∈ gained, issue.IsPassedOver) : Refiles first second
  /-- The same issues, in the same order, belong to other checks. -/
  | regroups {first second : List Check} (h : first.flatMap Check.issues = second.flatMap Check.issues) :
      Refiles first second
  /-- What was put in is taken out again. -/
  | symm {first second : List Check} (h : Refiles first second) : Refiles second first
  /-- One change after another. -/
  | trans {first second third : List Check} (hfirst : Refiles first second)
      (hsecond : Refiles second third) : Refiles first third

/-- An issue is of some group. -/
def Issue.isOfAGroup (issue : Issue) : Bool := ActionGroup.all.any (·.selects issue)

/-- An issue is of a group, or its rule is odd. -/
def Issue.counts (issue : Issue) : Bool :=
  issue.isOfAGroup || (issue.rule.isGiven && !issue.rule.isText)

/-- An issue that is passed over does not count. -/
theorem Issue.IsPassedOver.counts_eq_false {issue : Issue} (h : issue.IsPassedOver) :
    issue.counts = false := by
  have hgroups : issue.isOfAGroup = false :=
    List.any_eq_false.mpr fun group hg => by rw [h.group group hg]; exact Bool.false_ne_true
  have hrule : (issue.rule.isGiven && !issue.rule.isText) = false := by
    rw [← Bool.not_eq_true, Bool.and_eq_true, Bool.not_eq_true']
    exact h.rule
  rw [counts, hgroups, hrule]
  rfl

/-- Issues that came in without a property leave those with it as they were. -/
theorem Check.Gains.filter_eq {gained : List Issue} {first second : List Check} {p : Issue → Bool}
    (h : Check.Gains gained first second) (hp : ∀ issue ∈ gained, p issue = false) :
    (second.flatMap Check.issues).filter p = (first.flatMap Check.issues).filter p := by
  have hgone : ∀ issue ∈ gained, ¬p issue = true := fun issue hi => by
    rw [hp issue hi]
    exact Bool.false_ne_true
  cases h with
  | issue before after front back added hcheck hother =>
    simp only [List.flatMap_append, List.flatMap_cons, hcheck, hother, List.filter_append,
      List.filter_cons_of_neg (hgone added List.mem_cons_self)]
  | check before after added =>
    have hnone : added.issues.filter p = [] := List.filter_eq_nil_iff.mpr hgone
    simp only [List.flatMap_append, List.flatMap_cons, List.filter_append, hnone, List.nil_append]

/-- Refiled checks have the same issues that count. -/
theorem Check.Refiles.filter_counts {first second : List Check} (h : Check.Refiles first second) :
    (first.flatMap Check.issues).filter Issue.counts = (second.flatMap Check.issues).filter Issue.counts := by
  induction h with
  | gains h hpassed => exact (h.filter_eq fun issue hi => (hpassed issue hi).counts_eq_false).symm
  | regroups h => rw [h]
  | symm _ ih => exact ih.symm
  | trans _ _ ihfirst ihsecond => exact ihfirst.trans ihsecond

/-- What a predicate selects counts, so it is selected from the issues that count. -/
theorem Issue.filter_filter_counts {p : Issue → Bool} (hp : ∀ issue, p issue = true → issue.counts = true)
    (issues : List Issue) : (issues.filter counts).filter p = issues.filter p := by
  rw [List.filter_filter]
  refine List.filter_congr fun issue _ => ?_
  cases h : p issue with
  | false => rfl
  | true => rw [hp issue h]; rfl

/-- What a group selects counts. -/
theorem ActionGroup.counts_of_selects {group : ActionGroup} (hg : group ∈ all) {issue : Issue}
    (h : group.selects issue = true) : issue.counts = true := by
  have hany : issue.isOfAGroup = true := List.any_eq_true.mpr ⟨group, hg, h⟩
  rw [Issue.counts, hany]
  rfl

/-- An issue that items can be made of: its rule is a text or absent, and its message is a text if
it is about a circle, since such a message is shown without its beginning. -/
structure Issue.IsListable (issue : Issue) : Prop where
  rule : ¬issue.rule.IsOdd
  message : ActionGroup.circularDependencies.selects issue = true → issue.message.isText = true

/-- An issue with a text for its message, and for its rule if it has one, is such an issue. -/
theorem Issue.IsOrderly.isListable {issue : Issue} (h : issue.IsOrderly) : issue.IsListable :=
  ⟨h.rule, fun _ => h.message⟩

namespace ActionItem

/-- Checks of such issues have the items of these issues. -/
theorem ofChecks_of_listable {checks : List Check}
    (h : ∀ issue ∈ checks.flatMap Check.issues, issue.IsListable) :
    ofChecks checks = .ok (ofIssues (checks.flatMap Check.issues)) := by
  have hrules : ¬∃ issue ∈ checks.flatMap Check.issues, issue.rule.IsOdd := by
    rintro ⟨issue, hi, hodd⟩
    exact (h issue hi).rule hodd
  unfold ofChecks
  dsimp only
  rw [(offendingRule?_eq_none_iff _).mpr hrules, offendingMessage?_eq_none fun issue hi => (h issue hi).message]

/-- The items depend on the issues that count alone. -/
theorem ofIssues_filter (issues : List Issue) : ofIssues (issues.filter Issue.counts) = ofIssues issues := by
  have hdraft : ∀ group ∈ ActionGroup.all,
      group.draft (issues.filter Issue.counts) = group.draft issues := by
    intro group hg
    unfold ActionGroup.draft
    rw [Issue.filter_filter_counts fun issue => ActionGroup.counts_of_selects hg]
  unfold ofIssues
  rw [List.filterMap_congr hdraft]

/-- Whether a rule offends depends on the issues that count alone. -/
theorem offendingRule?_filter (issues : List Issue) :
    offendingRule? (issues.filter Issue.counts) = offendingRule? issues := by
  unfold offendingRule?
  rw [List.find?_map, List.find?_map, List.find?_filter]
  congr 2
  funext issue
  -- A rule that offends makes its issue count.
  change decide (issue.counts = true ∧ (issue.rule.isGiven && !issue.rule.isText) = true) =
    (issue.rule.isGiven && !issue.rule.isText)
  cases hodd : issue.rule.isGiven && !issue.rule.isText with
  | false => rw [decide_eq_false fun h => Bool.false_ne_true h.2]
  | true =>
    have hcounts : issue.counts = true := by rw [Issue.counts, hodd, Bool.or_true]
    exact decide_eq_true ⟨hcounts, rfl⟩

/-- Whether a message offends depends on the issues that count alone. -/
theorem offendingMessage?_filter (issues : List Issue) :
    offendingMessage? (issues.filter Issue.counts) = offendingMessage? issues := by
  have hg : ActionGroup.circularDependencies ∈ ActionGroup.all := by simp [ActionGroup.all]
  unfold offendingMessage?
  dsimp only
  rw [Issue.filter_filter_counts fun issue => ActionGroup.counts_of_selects hg]

/-- Refiled checks have the same items. -/
theorem ofChecks_of_refiles {first second : List Check} (h : Check.Refiles first second) :
    ofChecks second = ofChecks first := by
  unfold ofChecks
  dsimp only
  rw [← offendingRule?_filter (second.flatMap _), ← offendingMessage?_filter (second.flatMap _),
    ← ofIssues_filter (second.flatMap _), ← h.filter_counts, offendingRule?_filter,
    offendingMessage?_filter, ofIssues_filter]

/-- The items of checks whose rules are texts or absent tell of all issues, and refiling the issues
changes nothing. -/
theorem ofChecks_tells {checks : List Check} (h : ∀ issue ∈ checks.flatMap Check.issues, issue.IsListable) :
    (∃ items, ofChecks checks = .ok items ∧ Tells (checks.flatMap Check.issues) items) ∧
      ∀ others, Check.Refiles checks others → ofChecks others = ofChecks checks :=
  ⟨⟨_, ofChecks_of_listable h, tells_ofIssues _⟩,
    fun _ hrefiles => ofChecks_of_refiles hrefiles⟩

/-- An unused file and two circles give two items, whichever check holds them, and a remark on
copies none. -/
theorem ofChecks_tells_two :
    ∃ checks others : List Check, (∀ issue ∈ checks.flatMap Check.issues, issue.IsListable) ∧
      Check.Refiles checks others ∧
      ∃ items, ofChecks checks = .ok items ∧ Tells (checks.flatMap Check.issues) items ∧
        items.map (·.number) = [some 1, some 2] ∧ items.map stated = [1, 2] ∧ ofChecks others = .ok items := by
  let unused : Issue :=
    { severity := .warning, message := .text "Unused file", file := .text "a.ts", rule := .text "knip/unused-file" }
  let circle : Issue :=
    { severity := .error, message := .text "Circular: b.ts > c.ts > b.ts", rule := .text "madge/circular" }
  let remark : Issue := { severity := .info, message := .text "No copies", rule := .text "jscpd/stats" }
  let split : List Check :=
    [.ofIssues "Dead Code" [unused] 0 "" none, .ofIssues "Circular Dependencies" [circle, circle] 0 "" none]
  have hlistable : ∀ issue ∈ split.flatMap Check.issues, issue.IsListable := by
    intro issue hi
    simp only [split, Check.ofIssues, List.flatMap_cons, List.flatMap_nil, List.cons_append, List.nil_append,
      List.mem_cons, List.not_mem_nil, or_false] at hi
    rcases hi with rfl | rfl | rfl <;> exact (Issue.IsOrderly.ofTexts rfl rfl).isListable
  have hpassed : remark.IsPassedOver := ⟨by decide, Value.not_isOdd_text _⟩
  have hrefiles : Check.Refiles split [.ofIssues "All" [unused, circle, remark, circle] 0 "" none] := by
    have hone : Check.Refiles split [.ofIssues "All" [unused, circle, circle] 0 "" none] := .regroups rfl
    refine hone.trans ?_
    refine .gains (.issue [] [] [unused, circle] [circle] remark rfl rfl) fun issue hi => ?_
    rw [List.mem_singleton.mp hi]
    exact hpassed
  obtain ⟨⟨items, hitems, htells⟩, hsame⟩ := ofChecks_tells hlistable
  have hvalue : items = ofIssues [unused, circle, circle] := by
    rw [ofChecks_of_listable hlistable] at hitems
    exact (Except.ok.inj hitems).symm
  refine ⟨split, _, hlistable, hrefiles, items, hitems, htells, ?_, ?_, (hsame _ hrefiles).trans hitems⟩
  · rw [hvalue]
    decide
  · rw [hvalue]
    decide

end ActionItem

/-! ## Issues that two items count -/

/-- An issue is of the group of unused exports and of one of those whose rules a tool may
name freely behind their start. -/
def Issue.isCountedTwice (issue : Issue) : Bool :=
  ActionGroup.unusedExports.selects issue &&
    (ActionGroup.architectureErrors.selects issue || ActionGroup.duplicateBlocks.selects issue ||
      ActionGroup.circularDependencies.selects issue)

/-- An issue that is counted twice is of a group. -/
theorem Issue.isOfAGroup_of_isCountedTwice (issue : Issue) (h : issue.isCountedTwice = true) :
    issue.isOfAGroup = true := by
  have hu : ActionGroup.unusedExports.selects issue = true := (Bool.and_eq_true _ _ ▸ h).1
  exact List.any_eq_true.mpr ⟨_, by simp [ActionGroup.all], hu⟩

namespace ActionGroup

variable {issue : Issue}

/-! ## How rules start -/

/-- An issue has a rule of a text that starts in a way. -/
def HasStem (issue : Issue) (stem : String) : Prop :=
  ∃ rule, issue.rule = .text rule ∧ stem.toList <+: rule.toList

/-- A rule that a group gives in full starts with any beginning of it. -/
theorem hasStem_of_hasRule {rule stem : String} (hs : stem.toList <+: rule.toList)
    (h : issue.hasRule rule = true) : HasStem issue stem := by
  unfold Issue.hasRule at h
  split at h
  · next value hv =>
    rw [decide_eq_true_eq] at h
    subst h
    exact ⟨_, hv, hs⟩
  · cases h

/-- A rule that starts with a text starts with any beginning of it. -/
theorem hasStem_of_ruleStarts {start stem : String} (hs : stem.toList <+: start.toList)
    (h : ruleStarts start issue = true) : HasStem issue stem := by
  unfold ruleStarts at h
  split at h
  · next rule hv => exact ⟨rule, hv, hs.trans (List.isPrefixOf_iff_prefix.mp h)⟩
  · cases h

/-- All groups but that of unused exports, with what sets their rules apart. -/
def stems : List (ActionGroup × String) :=
  [(oversizedFiles, "complexity/f"), (complexComponents, "complexity/t"), (crowdedFolders, "structure/"),
   (architectureErrors, "architecture/"), (duplicateBlocks, "jscpd/"), (unusedFiles, "knip/"),
   (circularDependencies, "madge/")]

/-- The rules of a group start as its stem says. -/
theorem hasStem_of_selects {entry : ActionGroup × String} (he : entry ∈ stems)
    (h : entry.1.selects issue = true) : HasStem issue entry.2 := by
  simp only [stems, List.mem_cons, List.not_mem_nil, or_false] at he
  rcases he with rfl | rfl | rfl | rfl | rfl | rfl | rfl
  · exact hasStem_of_hasRule (by decide) (Bool.and_eq_true _ _ ▸ h).1
  · exact hasStem_of_hasRule (by decide) (Bool.and_eq_true _ _ ▸ h).1
  · exact hasStem_of_hasRule (by decide) h
  · exact hasStem_of_ruleStarts (by decide) (Bool.and_eq_true _ _ ▸ h).1
  · exact hasStem_of_ruleStarts (by decide) (Bool.and_eq_true _ _ ▸ h).1
  · exact hasStem_of_hasRule (by decide) h
  · exact hasStem_of_ruleStarts (by decide) h

/-- No stem starts another. -/
theorem pairwise_stems :
    stems.Pairwise fun one other => ¬one.2.toList <+: other.2.toList ∧ ¬other.2.toList <+: one.2.toList := by
  have hstems : (stems.map Prod.snd).Pairwise fun one other =>
      ¬one.toList <+: other.toList ∧ ¬other.toList <+: one.toList := by decide
  exact List.pairwise_map.mp hstems

/-- Two stems of one rule start with each other. -/
theorem HasStem.comparable {stem other : String} (h : HasStem issue stem) (ho : HasStem issue other) :
    stem.toList <+: other.toList ∨ other.toList <+: stem.toList := by
  obtain ⟨rule, hrule, hstem⟩ := h
  obtain ⟨same, hsame, hother⟩ := ho
  cases hrule.symm.trans hsame
  exact List.prefix_or_prefix_of_prefix hstem hother

/-- Of entries that exclude each other one is counted at most. -/
theorem countP_le_one {α : Type} {p : α → Bool} {entries : List α}
    (h : entries.Pairwise fun one other => ¬(p one = true ∧ p other = true)) : entries.countP p ≤ 1 := by
  induction entries with
  | nil => exact Nat.zero_le 1
  | cons entry entries ih =>
    obtain ⟨happart, hrest⟩ := List.pairwise_cons.mp h
    rw [List.countP_cons]
    split
    · next he =>
      have hnone : entries.countP p = 0 :=
        List.countP_eq_zero.mpr fun other ho hp => happart other ho ⟨he, hp⟩
      exact Nat.le_of_eq (congrArg (· + 1) hnone)
    · exact ih hrest

/-- An issue is of one of the groups with stems at most. -/
theorem countP_stems_le (issue : Issue) : stems.countP (fun entry => entry.1.selects issue) ≤ 1 := by
  have hapart : stems.Pairwise fun one other =>
      ¬(one.1.selects issue = true ∧ other.1.selects issue = true) := by
    refine pairwise_stems.imp_of_mem fun hone hother hstems hboth => ?_
    rcases (hasStem_of_selects hone hboth.1).comparable (hasStem_of_selects hother hboth.2) with hle | hle
    · exact hstems.1 hle
    · exact hstems.2 hle
  exact countP_le_one hapart

/-! ## How many groups an issue is of -/

/-- A rule that a group gives in full, and that has no mark of unused exports, excludes them. -/
theorem not_unusedExports_of_hasRule {rule : String} (hr : occurs "unused-export".toList rule.toList = false)
    (h : issue.hasRule rule = true) : unusedExports.selects issue = false := by
  unfold Issue.hasRule at h
  split at h
  · next value hv =>
    rw [decide_eq_true_eq] at h
    subst h
    change ruleHolds _ issue = false
    rw [ruleHolds, hv]
    exact hr
  · cases h

/-- An issue is counted twice if it is about unused exports and of a group with a stem. -/
theorem isCountedTwice_eq (issue : Issue) : issue.isCountedTwice =
    (unusedExports.selects issue && stems.any fun entry => entry.1.selects issue) := by
  unfold Issue.isCountedTwice
  cases hu : unusedExports.selects issue with
  | false => rfl
  | true =>
    have hnot : ∀ rule, occurs "unused-export".toList rule.toList = false → issue.hasRule rule = false := by
      intro rule hr
      rw [Bool.eq_false_iff]
      intro h
      rw [not_unusedExports_of_hasRule hr h] at hu
      cases hu
    have hfiles : oversizedFiles.selects issue = false := by
      change (issue.hasRule _ && _) = false
      rw [hnot _ (by decide), Bool.false_and]
    have hhooks : complexComponents.selects issue = false := by
      change (issue.hasRule _ && _) = false
      rw [hnot _ (by decide), Bool.false_and]
    have hfolders : crowdedFolders.selects issue = false := hnot _ (by decide)
    have hunused : unusedFiles.selects issue = false := hnot _ (by decide)
    simp only [stems, List.any_cons, List.any_nil, hfiles, hhooks, hfolders, hunused, Bool.false_or,
      Bool.or_false, Bool.or_assoc]

/-- The groups of an issue: one if it is of any, and one more if it is counted twice. -/
theorem countP_all (issue : Issue) :
    all.countP (·.selects issue) = issue.isOfAGroup.toNat + issue.isCountedTwice.toNat := by
  have hle := countP_stems_le issue
  have hperm : all.Perm (unusedExports :: stems.map Prod.fst) := by
    change (all.take 6 ++ unusedExports :: all.drop 7).Perm _
    exact List.perm_middle
  have hcount : all.countP (·.selects issue) =
      stems.countP (fun entry => entry.1.selects issue) + (unusedExports.selects issue).toNat := by
    rw [hperm.countP_eq, List.countP_cons, List.countP_map]
    cases unusedExports.selects issue <;> rfl
  have hany : issue.isOfAGroup = (unusedExports.selects issue || stems.any fun entry => entry.1.selects issue) := by
    rw [Issue.isOfAGroup, hperm.any_eq, List.any_cons, List.any_map]
    rfl
  rw [hcount, hany, isCountedTwice_eq]
  cases hs : stems.any fun entry => entry.1.selects issue with
  | false =>
    have hzero : stems.countP (fun entry => entry.1.selects issue) = 0 := by
      rw [List.countP_eq_zero]
      exact List.any_eq_false.mp hs
    rw [hzero, Bool.or_false, Bool.and_false, Nat.zero_add]
    rfl
  | true =>
    have hpos : 0 < stems.countP (fun entry => entry.1.selects issue) :=
      List.countP_pos_iff.mpr (List.any_eq_true.mp hs)
    rw [Nat.le_antisymm hle hpos, Bool.or_true, Bool.and_true]
    rfl

end ActionGroup

/-! ## What the titles add up to -/

/-- The numbers of issues of some groups, with one issue more. -/
theorem ActionGroup.sum_countP_cons (groups : List ActionGroup) (issue : Issue) (issues : List Issue) :
    (groups.map fun group => (issue :: issues).countP group.selects).sum =
      groups.countP (·.selects issue) + (groups.map fun group => issues.countP group.selects).sum := by
  induction groups with
  | nil => rfl
  | cons group groups ih =>
    rw [List.map_cons, List.map_cons, List.sum_cons, List.sum_cons, ih, List.countP_cons, List.countP_cons]
    omega

/-- The numbers of issues of all groups count every issue of a group, and some twice. -/
theorem ActionGroup.sum_countP_all (issues : List Issue) :
    (all.map fun group => issues.countP group.selects).sum =
      issues.countP Issue.isOfAGroup + issues.countP Issue.isCountedTwice := by
  induction issues with
  | nil => rfl
  | cons issue issues ih =>
    have htoNat : ∀ b : Bool, (if b = true then 1 else 0) = b.toNat := by decide
    rw [sum_countP_cons, countP_all, ih, List.countP_cons, List.countP_cons, htoNat, htoNat]
    omega

/-- Groups without an issue add nothing. -/
theorem ActionGroup.sum_countP_concerned (issues : List Issue) :
    ((concerned issues).map fun group => issues.countP group.selects).sum =
      (all.map fun group => issues.countP group.selects).sum := by
  unfold concerned
  induction all with
  | nil => rfl
  | cons group groups ih =>
    rw [List.filter_cons, List.map_cons, List.sum_cons, ← ih]
    split
    · rfl
    · next hno =>
      have hzero : issues.countP group.selects = 0 := by
        rw [List.countP_eq_zero, ← List.any_eq_false]
        exact Bool.eq_false_iff.mpr hno
      rw [hzero, Nat.zero_add]

/-- The titles of the items of some issues add up to the numbers of issues of all groups. -/
theorem ActionItem.sum_stated_ofIssues (issues : List Issue) :
    ((ofIssues issues).map stated).sum = issues.countP Issue.isOfAGroup + issues.countP Issue.isCountedTwice := by
  have hstated : ((ActionGroup.concerned issues).mapIdx fun index group =>
      group.itemOf issues (index + 1)).map stated =
        (ActionGroup.concerned issues).map fun group => issues.countP group.selects := by
    refine List.ext_getElem? fun index => ?_
    rw [List.getElem?_map, List.getElem?_mapIdx, List.getElem?_map, Option.map_map]
    cases hg : (ActionGroup.concerned issues)[index]? with
    | none => rfl
    | some group =>
      have hall : group ∈ ActionGroup.all := (List.mem_filter.mp (List.mem_of_getElem? hg)).1
      exact congrArg some (ActionGroup.firstNumber_title hall _)
  have hnothing : nothing.stated = 0 := by decide
  rw [← ActionGroup.sum_countP_all, ← ActionGroup.sum_countP_concerned, ofIssues_eq]
  split
  · next hn =>
    rw [hn]
    exact hnothing
  · rw [hstated]

/-- An issue is of two groups at most, and of two exactly if it is counted twice. So the titles
of the items add up to the number of issues that are of a group, with those that are counted
twice once more. -/
theorem ActionItem.sum_stated_ofChecks {checks : List Check}
    (h : ∀ issue ∈ checks.flatMap Check.issues, issue.IsListable) :
    (∀ issue : Issue, ActionGroup.all.countP (·.selects issue) ≤ 2 ∧
      (1 < ActionGroup.all.countP (·.selects issue) ↔ issue.isCountedTwice = true)) ∧
      ∃ items, ofChecks checks = .ok items ∧
        (items.map stated).sum = (checks.flatMap Check.issues).countP Issue.isOfAGroup +
          (checks.flatMap Check.issues).countP Issue.isCountedTwice ∧
        ((∀ issue ∈ checks.flatMap Check.issues, issue.isCountedTwice = false) →
          (items.map stated).sum ≤ (checks.flatMap Check.issues).length) := by
  refine ⟨fun issue => ?_, _, ofChecks_of_listable h, sum_stated_ofIssues _, fun hone => ?_⟩
  · rw [ActionGroup.countP_all]
    cases htwice : issue.isCountedTwice with
    | false =>
      have hone : issue.isOfAGroup.toNat ≤ 1 := Bool.toNat_le _
      simp only [Bool.toNat_false, Nat.add_zero, Bool.false_eq_true, iff_false, Nat.not_lt, hone, and_true]
      exact Nat.le_succ_of_le hone
    | true => simp [issue.isOfAGroup_of_isCountedTwice htwice]
  · have hzero : (checks.flatMap Check.issues).countP Issue.isCountedTwice = 0 :=
      List.countP_eq_zero.mpr fun issue hi => by rw [hone issue hi]; exact Bool.false_ne_true
    rw [sum_stated_ofIssues, hzero]
    exact List.countP_le_length

/-- A crowded folder and an unused export give two items, which add up to two. -/
theorem ActionItem.sum_stated_ofChecks_folder :
    ∃ checks : List Check, (∀ issue ∈ checks.flatMap Check.issues, issue.IsListable) ∧
      (∀ issue ∈ checks.flatMap Check.issues, issue.isCountedTwice = false) ∧
        ∃ items, ofChecks checks = .ok items ∧ (items.map stated).sum = 2 := by
  let folder : Issue :=
    { severity := .warning, message := .text "40 files", rule := .text "structure/crowded-folder" }
  let unused : Issue :=
    { severity := .warning, message := .text "Unused export", rule := .text "knip/unused-export" }
  let checks : List Check := [.ofIssues "All" [folder, unused] 0 "" none]
  have horderly : AllOrderly (checks.flatMap Check.issues) :=
    .cons (.ofTexts rfl rfl) (.singleton (.ofTexts rfl rfl))
  have hlistable : ∀ issue ∈ checks.flatMap Check.issues, issue.IsListable := fun issue hi =>
    (horderly issue hi).isListable
  have hone : ∀ issue ∈ checks.flatMap Check.issues, issue.isCountedTwice = false := by
    intro issue hi
    simp only [checks, Check.ofIssues, List.flatMap_cons, List.flatMap_nil, List.append_nil,
      List.mem_cons, List.not_mem_nil, or_false] at hi
    rcases hi with rfl | rfl <;> decide
  obtain ⟨-, items, hitems, hsum, -⟩ := sum_stated_ofChecks hlistable
  exact ⟨checks, hlistable, hone, items, hitems, hsum⟩

/-- An import across a boundary that a project has a rule against, named after unused exports,
is one issue that two items count. -/
theorem ActionItem.stated_twice :
    ∃ checks : List Check, (∀ issue ∈ checks.flatMap Check.issues, issue.IsListable) ∧
      (∃ issue, checks.flatMap Check.issues = [issue] ∧ issue.rule = .text "architecture/no-unused-exports" ∧
        ActionGroup.architectureErrors.selects issue = true ∧ ActionGroup.unusedExports.selects issue = true) ∧
        ∃ items, ofChecks checks = .ok items ∧ items.map stated = [1, 1] := by
  let unused : Issue :=
    { severity := .error, message := .text "no-unused-exports: imports b.ts", file := .text "a.ts",
      rule := .text "architecture/no-unused-exports" }
  have horderly : AllOrderly [unused] := .singleton (.ofTexts rfl rfl)
  refine ⟨[.ofIssues "Architecture Boundaries" [unused] 0 "" none], fun issue hi => (horderly issue hi).isListable,
    ⟨unused, rfl, rfl, by decide, by decide⟩, ofIssues [unused], rfl, by decide⟩

end Checkup
