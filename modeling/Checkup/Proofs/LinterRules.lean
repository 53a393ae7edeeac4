import Checkup.Dialect.Eslint
import Checkup.Dialect.Oxlint
import Checkup.Proofs.JsonRoundTrip
import Checkup.Proofs.ReportedIssues
import Checkup.Proofs.ScannedText

/-!
# Rules that linters name

The JSON documents of the two linters name the rules of their issues themselves,
and what they name is taken as it is. The answers that bring in a rule of another
kind are told exactly, and every such rule can be sent.
-/

namespace Checkup

/-- A text that ends in no blank loses nothing at its end. -/
theorem Text.trimEnd_concat {c : Char} (h : isBlank c = false) (text : List Char) :
    trimEnd (text ++ [c]) = text ++ [c] := by
  induction text with
  | nil =>
    rw [List.nil_append, trimEnd, trimEnd]
    dsimp only
    rw [h]
    rfl
  | cons d text ih =>
    rw [List.cons_append, trimEnd, ih]
    cases text <;> rfl

/-- A text between two characters that are no blanks has no blanks around it. -/
theorem Text.trim_between {c d : Char} (hc : isBlank c = false) (hd : isBlank d = false) (text : List Char) :
    trim (c :: text ++ [d]) = c :: text ++ [d] := by
  have hstart : trimStart (c :: text ++ [d]) = c :: text ++ [d] :=
    List.dropWhile_cons_of_neg (Bool.eq_false_iff.mp hc)
  unfold trim
  rw [hstart]
  exact trimEnd_concat hd _

/-- A written list or mapping has no blanks around it. -/
theorem Json.trim_write {value : Value} (h : value.isList = true ∨ value.isMapping = true) :
    Text.trim (Json.write value) = Json.write value := by
  cases value with
  | scalar value => rcases h with h | h <;> cases h
  | list items =>
    rw [Json.write]
    exact Text.trim_between (by decide) (by decide) _
  | mapping entries =>
    rw [Json.write]
    exact Text.trim_between (by decide) (by decide) _

/-- A plain list or mapping is read from what is written of it. -/
theorem Json.read?_write {value : Value} (hp : Json.IsPlain value)
    (h : value.isList = true ∨ value.isMapping = true) :
    Json.read? (Text.trim (String.ofList (Json.write value)).toList) = some value := by
  rw [String.toList_ofList, Json.trim_write h]
  unfold Json.read?
  rw [hp.read_write]

/-- A plain list is read by its schema from what is written of it. -/
theorem Dialect.readJson_write_list {items : List Value} (h : Json.IsPlain (.list items))
    {schemaOf : Value → Option String} {schema : String} (hs : schemaOf (.list items) = some schema)
    (scanned : String → String → String) (stderr : String) :
    readJson schemaOf scanned (String.ofList (Json.write (.list items))) stderr =
      .structured schema (.list items) :=
  readJson_of_read (Json.read?_write h (.inl rfl)) (fun hnull => by cases hnull) hs stderr

namespace Oxlint

/-- The rule that a diagnostic names. -/
def reportedRule (diagnostic : Entries) : Value :=
  (Entries.get diagnostic "code").orElse
    ((Entries.get diagnostic "ruleId").orElse (Entries.get diagnostic "rule"))

/-- The fast linter answers with a document that is read, and in which some
diagnostic names an odd rule. -/
def SendsOddRule (root : Option String) (stdout stderr : String) : Prop :=
  ∃ schema payload issues,
    Dialect.readJson schemaOf Dialect.stdoutOnly stdout stderr = .structured schema payload ∧
      (diagnostics schema payload).mapM (issueOf root) = .ok issues ∧
        ∃ diagnostic ∈ diagnostics schema payload, (reportedRule diagnostic).IsOdd

/-- The issue of a diagnostic has the rule that the diagnostic names. -/
theorem issueOf_gives (root : Option String) (diagnostic : Entries) :
    Gives (issueOf root diagnostic) fun issue =>
      issue.message.isText = true ∧ issue.rule = reportedRule diagnostic :=
  .bind fun _ => .bind fun _ => .bind fun _ => .ok ⟨rfl, rfl⟩

/-- The issues of a text are orderly. -/
theorem ofText_orderly (root : Option String) (text : String) :
    Gives ((dialect root).ofText text) AllOrderly :=
  .ok (.map (fun _ => .ofMessage rfl rfl) _)

/-- The issues of the fast linter have texts for their messages. -/
theorem issues_spoken (root : Option String) (stdout stderr : String) :
    Gives ((dialect root).issues stdout stderr) AllSpoken := by
  refine Dialect.issues_gives ?_ ?_ ?_ stdout stderr
  · exact fun schema payload =>
      .mapM (fun diagnostic => (issueOf_gives root diagnostic).mono fun _ h => h.1) _
  · exact fun text => (ofText_orderly root text).mono fun _ h => h.allSpoken
  · exact fun text => (Dialect.unread_orderly text).mono fun _ h => h.allSpoken

/-- An odd rule in the issues of the fast linter is one that its document names. -/
theorem exists_isOdd_iff (root : Option String) (stdout stderr : String) :
    (∃ issues, (dialect root).issues stdout stderr = .ok issues ∧ ∃ issue ∈ issues, issue.rule.IsOdd) ↔
      SendsOddRule root stdout stderr := by
  rw [Dialect.exists_isOdd_iff (ofText_orderly root)]
  constructor
  · rintro ⟨schema, payload, issues, hread, hissues, issue, hi, hodd⟩
    obtain ⟨diagnostic, hd, hissue⟩ := (members_of_mapM_eq_ok hissues).1 issue hi
    rw [(issueOf_gives root diagnostic issue hissue).2] at hodd
    exact ⟨schema, payload, issues, Except.ok.inj hread, hissues, diagnostic, hd, hodd⟩
  · rintro ⟨schema, payload, issues, hread, hissues, diagnostic, hd, hodd⟩
    obtain ⟨issue, hi, hissue⟩ := (members_of_mapM_eq_ok hissues).2 diagnostic hd
    rw [← (issueOf_gives root diagnostic issue hissue).2] at hodd
    exact ⟨schema, payload, issues, congrArg Except.ok hread, hissues, issue, hi, hodd⟩

/-- Every odd rule is sent by a document that holds nothing else. -/
theorem sendsOddRule_of_code {rule : Value} (hp : Json.IsPlain rule) (ho : rule.IsOdd)
    (root : Option String) (stderr : String) :
    SendsOddRule root
      (String.ofList (Json.write (.list [.mapping [(.text "code", rule)]]))) stderr := by
  have hrule : reportedRule [(.text "code", rule)] = rule := by
    change rule.orElse _ = rule
    unfold Value.orElse
    rw [if_pos ho.1]
  refine ⟨"list", _, _, Dialect.readJson_write_list (hp.entry "code").singleton rfl _ _, rfl, _,
    List.mem_singleton.mpr rfl, ?_⟩
  rw [hrule]
  exact ho

end Oxlint

namespace Eslint

/-- The linter of modules answers with a document that is read, and in which some
message names an odd rule. -/
def SendsOddRule (root : Option String) (stdout stderr : String) : Prop :=
  ∃ schema payload lists,
    Dialect.readJson schemaOf Dialect.stdoutOnly stdout stderr = .structured schema payload ∧
      (results schema payload).mapM (issuesOfResult root) = .ok lists ∧
        ∃ result ∈ results schema payload, ∃ message ∈ (Entries.get result "messages").mappings,
          (Entries.get message "ruleId").IsOdd

/-- The issue of a message has the rule that the message names. -/
theorem issueOf_gives (file : Value) (message : Entries) :
    Gives (issueOf file message) fun issue =>
      issue.message.isText = true ∧ issue.rule = Entries.get message "ruleId" :=
  .bind fun _ => .bind fun _ => .ok ⟨rfl, rfl⟩

/-- The issues about one file have texts for their messages. -/
theorem issuesOfResult_spoken (root : Option String) (result : Entries) :
    Gives (issuesOfResult root result) AllSpoken :=
  .bind fun file => .mapM (fun message => (issueOf_gives file message).mono fun _ h => h.1) _

/-- An odd rule in the issues about one file is one that a message about it names. -/
theorem exists_isOdd_of_result {root : Option String} {result : Entries} {issues : List Issue}
    (h : issuesOfResult root result = .ok issues) :
    (∃ issue ∈ issues, issue.rule.IsOdd) ↔
      ∃ message ∈ (Entries.get result "messages").mappings, (Entries.get message "ruleId").IsOdd := by
  obtain ⟨file, -, hissues⟩ := bind_eq_ok_iff.mp h
  constructor
  · rintro ⟨issue, hi, hodd⟩
    obtain ⟨message, hm, hissue⟩ := (members_of_mapM_eq_ok hissues).1 issue hi
    rw [(issueOf_gives file message issue hissue).2] at hodd
    exact ⟨message, hm, hodd⟩
  · rintro ⟨message, hm, hodd⟩
    obtain ⟨issue, hi, hissue⟩ := (members_of_mapM_eq_ok hissues).2 message hm
    rw [← (issueOf_gives file message issue hissue).2] at hodd
    exact ⟨issue, hi, hodd⟩

/-- The issue of a line with colons is orderly. -/
theorem colonIssue_orderly (root : Option String) (line : List Char) :
    Gives (colonIssue root line) Issue.IsOrderly := by
  unfold colonIssue
  dsimp only
  split
  · exact .ok (.ofMessage rfl rfl)
  · split
    · exact .ok (.ofMessage rfl rfl)
    · refine .bind fun number => ?_
      split
      · exact .ok (.ofMessage rfl rfl)
      · exact .bind fun _ => .ok (.ofMessage rfl rfl)

/-- The issues of the lines of a text are orderly, whichever path was last seen. -/
theorem issuesOfLines_orderly (root : Option String) (file : Value) (lines : List (List Char)) :
    Gives (issuesOfLines root file lines) AllOrderly := by
  induction lines generalizing file with
  | nil =>
    rw [issuesOfLines]
    exact .ok .nil
  | cons line lines ih =>
    rw [issuesOfLines.eq_def]
    dsimp only
    split
    · exact .bind fun path => ih path
    · split
      · refine .bind fun number => ?_
        exact .bind_of (ih _) fun issues hissues => .ok (.cons ⟨rfl, Value.not_isOdd_ofText? _⟩ hissues)
      · split
        · exact ih _
        · split
          · refine .bind_of (colonIssue_orderly root line) fun issue hissue => ?_
            exact .bind_of (ih _) fun issues hissues => .ok (.cons hissue hissues)
          · exact ih _

/-- The issues of a text are orderly. -/
theorem ofText_orderly (root : Option String) (text : String) :
    Gives ((dialect root).ofText text) AllOrderly :=
  issuesOfLines_orderly root .null _

/-- The issues of the linter of modules have texts for their messages. -/
theorem issues_spoken (root : Option String) (stdout stderr : String) :
    Gives ((dialect root).issues stdout stderr) AllSpoken := by
  refine Dialect.issues_gives ?_ ?_ ?_ stdout stderr
  · intro schema payload
    refine .bind_of (.mapM (issuesOfResult_spoken root) _) fun lists hlists => .ok ?_
    intro issue hi
    obtain ⟨issues, hm, hissue⟩ := List.mem_flatten.mp hi
    exact hlists issues hm issue hissue
  · exact fun text => (ofText_orderly root text).mono fun _ h => h.allSpoken
  · exact fun text => (Dialect.unread_orderly text).mono fun _ h => h.allSpoken

/-- An odd rule in the issues of the linter of modules is one that its document names. -/
theorem exists_isOdd_iff (root : Option String) (stdout stderr : String) :
    (∃ issues, (dialect root).issues stdout stderr = .ok issues ∧ ∃ issue ∈ issues, issue.rule.IsOdd) ↔
      SendsOddRule root stdout stderr := by
  rw [Dialect.exists_isOdd_iff (ofText_orderly root)]
  constructor
  · rintro ⟨schema, payload, issues, hread, hissues, issue, hi, hodd⟩
    obtain ⟨lists, hlists, hflat⟩ := bind_eq_ok_iff.mp hissues
    cases hflat
    obtain ⟨found, hfound, hissue⟩ := List.mem_flatten.mp hi
    obtain ⟨result, hr, hresult⟩ := (members_of_mapM_eq_ok hlists).1 found hfound
    have hmessage := (exists_isOdd_of_result hresult).mp ⟨issue, hissue, hodd⟩
    exact ⟨schema, payload, lists, Except.ok.inj hread, hlists, result, hr, hmessage⟩
  · rintro ⟨schema, payload, lists, hread, hlists, result, hr, hmessage⟩
    obtain ⟨found, hfound, hresult⟩ := (members_of_mapM_eq_ok hlists).2 result hr
    obtain ⟨issue, hissue, hodd⟩ := (exists_isOdd_of_result hresult).mpr hmessage
    exact ⟨schema, payload, lists.flatten, congrArg Except.ok hread, bind_eq_ok_iff.mpr ⟨lists, hlists, rfl⟩,
      issue, List.mem_flatten.mpr ⟨found, hfound, hissue⟩, hodd⟩

end Eslint

end Checkup
