import Checkup.Dialect.Architecture
import Checkup.Proofs.Announcements
import Checkup.Proofs.LinterRules

/-!
# Schemas of one tool

A tool wraps its findings in different documents, as its version says. The documents that hold the
same list of findings are read alike: none is scanned as text, and from each come the same issues or
the same fault, whatever stands in the list and whatever else stands beside it. Only a number with too
many digits makes no document, and what holds one is scanned.
-/

namespace Checkup

open Text

/-- Two documents are read alike, whatever output they come in. -/
structure Dialect.ReadsAlike (dialect : Dialect Value) (document other : Value) : Prop where
  /-- Both are read by a schema. -/
  structured : ∀ payload ∈ [document, other], ∀ stdout stderr, Json.read? (trim stdout.toList) = some payload →
    ∃ schema, dialect.read stdout stderr = .ok (.structured schema payload)
  /-- Both give the same issues or the same fault. -/
  same : ∀ stdout stderr stdout' stderr', Json.read? (trim stdout.toList) = some document →
    Json.read? (trim stdout'.toList) = some other → dialect.issues stdout stderr = dialect.issues stdout' stderr'

namespace Dialect.ReadsAlike

variable {dialect : Dialect Value} {schemaOf : Value → Option String} {scanned : String → String → String}
  {document other : Value} {schema schema' : String}

/-- Output of a known schema is read by it, and its issues are those of the document. -/
theorem read_of_schema
    (hr : ∀ stdout stderr, dialect.read stdout stderr = .ok (readJson schemaOf scanned stdout stderr))
    (hn : schemaOf .null = none) (hs : schemaOf document = some schema) {stdout : String}
    (hread : Json.read? (trim stdout.toList) = some document) (stderr : String) :
    dialect.read stdout stderr = .ok (.structured schema document) ∧
      dialect.issues stdout stderr = dialect.ofStructured schema document := by
  have hnull : document ≠ .null := by
    rintro rfl
    rw [hn] at hs
    cases hs
  have hstructured : dialect.read stdout stderr = .ok (.structured schema document) := by
    rw [hr, readJson_of_read hread hnull hs stderr]
  refine ⟨hstructured, ?_⟩
  unfold issues
  rw [hstructured, ok_bind]

/-- Documents of known schemas are read alike if they give the same. -/
theorem of_schemas (hr : ∀ stdout stderr, dialect.read stdout stderr = .ok (readJson schemaOf scanned stdout stderr))
    (hn : schemaOf .null = none) (hs : schemaOf document = some schema) (hs' : schemaOf other = some schema')
    (h : dialect.ofStructured schema document = dialect.ofStructured schema' other) :
    dialect.ReadsAlike document other where
  structured := by
    refine List.forall_mem_cons.mpr ⟨?_, List.forall_mem_singleton.mpr ?_⟩
    · exact fun _ stderr hread => ⟨schema, (read_of_schema hr hn hs hread stderr).1⟩
    · exact fun _ stderr hread => ⟨schema', (read_of_schema hr hn hs' hread stderr).1⟩
  same := by
    intro stdout stderr stdout' stderr' hread hread'
    rw [(read_of_schema hr hn hs hread stderr).2, (read_of_schema hr hn hs' hread' stderr').2, h]

end Dialect.ReadsAlike

variable {entries entries' : Entries} {items : List Value}

/-- The fast linter's mapping of diagnostics is read as the list of them. -/
theorem Oxlint.diagnostics_readsAlike (root : Option String) (h : Entries.get entries "diagnostics" = .list items) :
    (Oxlint.dialect root).ReadsAlike (.mapping entries) (.list items) := by
  have hlist : (Entries.get entries "diagnostics").isList = true := by
    rw [h]
    rfl
  have hsame : Oxlint.diagnostics "diagnostics" (.mapping entries) = Oxlint.diagnostics "list" (.list items) := by
    change (Entries.get entries "diagnostics").mappings = _
    rw [h]
    rfl
  refine .of_schemas (fun _ _ => rfl) rfl (if_pos hlist) rfl ?_
  exact congrArg (List.mapM (Oxlint.issueOf root)) hsame

/-- ESLint's mapping of results is read as the list of them. -/
theorem Eslint.results_readsAlike (root : Option String) (h : Entries.get entries "results" = .list items) :
    (Eslint.dialect root).ReadsAlike (.mapping entries) (.list items) := by
  have hlist : (Entries.get entries "results").isList = true := by
    rw [h]
    rfl
  have hsame : Eslint.results "wrapped" (.mapping entries) = Eslint.results "results" (.list items) := by
    change (Entries.get entries "results").mappings = _
    rw [h]
    rfl
  refine .of_schemas (fun _ _ => rfl) rfl (if_pos hlist) rfl ?_
  change (do .ok (← (Eslint.results "wrapped" (.mapping entries)).mapM (Eslint.issuesOfResult root)).flatten) = _
  rw [hsame]
  rfl

/-- Violations below an output are read as those below a summary, if no summary hides them. -/
theorem Architecture.output_readsAlike {part part' : Entries} (root : Option String)
    (hs : (Entries.get entries "summary").isMapping = false) (ho : Entries.get entries "output" = .mapping part)
    (h : Entries.get part "violations" = .list items) (hs' : Entries.get entries' "summary" = .mapping part')
    (h' : Entries.get part' "violations" = .list items) :
    (Architecture.dialect root).ReadsAlike (.mapping entries) (.mapping entries') := by
  have houtput : Architecture.schemaOf (.mapping entries) = some "output" := by
    unfold Architecture.schemaOf
    dsimp only
    rw [hs, if_neg Bool.false_ne_true, ho]
    dsimp only
    rw [h]
    rfl
  have hsummary : Architecture.schemaOf (.mapping entries') = some "summary" := by
    unfold Architecture.schemaOf
    dsimp only
    rw [hs']
    rfl
  have hsame : Architecture.violations "output" (.mapping entries) =
      Architecture.violations "summary" (.mapping entries') := by
    unfold Architecture.violations
    dsimp only
    rw [ho, hs']
    dsimp only
    rw [h, h']
  refine .of_schemas (fun _ _ => rfl) rfl houtput hsummary ?_
  exact congrArg (List.mapM (Architecture.issueOf root)) hsame

/-- A list of a number with too many digits is no document. -/
theorem Json.read?_write_long {n : Nat} (h : unwritable ≤ n) : Json.read? (Json.write (.list [.int n])) = none := by
  have hwrite : Json.write (.list [.int n]) = '[' :: (Nat.toDigits 10 n ++ [']']) := by
    rw [Json.write, Json.writeItems, Json.write_natCast]
    rfl
  have hlong : maxDigits < (Nat.toDigits 10 n).length := by
    rw [← Nat.not_le, length_toDigits_le_maxDigits]
    unfold unwritable at h
    exact Nat.not_lt.mpr h
  have hnumber : ∀ bound, Json.readValue (bound + 1) (Nat.toDigits 10 n ++ [']']) =
      .error (.tooManyDigits (Nat.toDigits 10 n).length) := by
    intro bound
    rw [Json.readValue_toDigits, Json.readMagnitude_append false n (fun c hc => by cases hc; rfl) rfl rfl, if_pos hlong]
  obtain ⟨c, digits, hdigits, -, hc⟩ := Json.starts_toDigits n
  have hgap := (Json.starts_toDigits n).skipGap_append [']']
  have hitems : ∀ bound, Json.readItems (bound + 2) (Nat.toDigits 10 n ++ [']']) =
      .error (.tooManyDigits (Nat.toDigits 10 n).length) := by
    intro bound
    rw [Json.readItems, hnumber]
    rfl
  have hlist : ∀ bound, Json.readValue (bound + 3) ('[' :: (Nat.toDigits 10 n ++ [']'])) =
      .error (.tooManyDigits (Nat.toDigits 10 n).length) := by
    intro bound
    have hitem := hitems bound
    rw [hdigits, List.cons_append] at hgap hitem ⊢
    rw [Json.readValue_bracket hgap hc, hitem]
    rfl
  have hskip : Json.skipGap ('[' :: (Nat.toDigits 10 n ++ [']'])) = '[' :: (Nat.toDigits 10 n ++ [']']) :=
    List.dropWhile_cons_of_neg (by decide)
  have hbound : 2 * ('[' :: (Nat.toDigits 10 n ++ [']'])).length + 2 =
      2 * (Nat.toDigits 10 n).length + 3 + 3 := by
    simp only [List.length_cons, List.length_append, List.length_nil]
    omega
  unfold Json.read? Json.read
  rw [hwrite, hskip, hbound, hlist]
  rfl

/-- Output with such a list alone is scanned. -/
theorem Oxlint.read_long_number {n : Nat} (h : unwritable ≤ n) (root : Option String) (stderr : String) :
    (Oxlint.dialect root).read (String.ofList (Json.write (.list [.int n]))) stderr =
      .ok (.text (String.ofList (Json.write (.list [.int n])))) := by
  have hread : Json.read? (trim (Json.write (.list [.int n]))) = none := by
    rw [Json.trim_write (.inl rfl)]
    exact Json.read?_write_long h
  have hfull : allBlank (Json.write (.list [.int n])) = false := by
    rw [Json.write]
    rfl
  rw [← String.toList_ofList (l := Json.write (.list [.int n]))] at hread hfull
  exact congrArg Except.ok (Dialect.readJson_of_not_blank hread hfull stderr)

/-- The schemas of a tool mean the same: whatever the list of findings holds, and whatever stands
beside it, none of the documents around it is scanned, and all give the same issues or the same
fault. -/
theorem schemas_read_alike (root : Option String) (items : List Value) :
    (∀ entries, Entries.get entries "diagnostics" = .list items →
        (Oxlint.dialect root).ReadsAlike (.mapping entries) (.list items)) ∧
      (∀ entries, Entries.get entries "results" = .list items →
        (Eslint.dialect root).ReadsAlike (.mapping entries) (.list items)) ∧
      ∀ entries entries' part part', (Entries.get entries "summary").isMapping = false →
        Entries.get entries "output" = .mapping part → Entries.get part "violations" = .list items →
          Entries.get entries' "summary" = .mapping part' → Entries.get part' "violations" = .list items →
            (Architecture.dialect root).ReadsAlike (.mapping entries) (.mapping entries') :=
  ⟨fun _ h => Oxlint.diagnostics_readsAlike root h, fun _ h => Eslint.results_readsAlike root h,
    fun _ _ _ _ hs ho h hs' h' => Architecture.output_readsAlike root hs ho h hs' h'⟩

/-- A text gives nothing and a list for a label the same fault, below each key and alone. -/
theorem schemas_read_alike_odd_items :
    let items : List Value := [.text "x", .mapping [(.text "severity", .list [])]]
    let diagnostics : Value := .mapping [(.text "version", .text "2"), (.text "diagnostics", .list items)]
    let results : Value := .mapping [(.text "results", .list items)]
    let output : Value := .mapping [(.text "output", .mapping [(.text "violations", .list items)])]
    let summary : Value := .mapping [(.text "summary", .mapping [(.text "violations", .list items)])]
    let written (value : Value) : String := String.ofList (Json.write value)
    (Oxlint.dialect none).issues (written diagnostics) "" = (Oxlint.dialect none).issues (written (.list items)) "" ∧
      (Eslint.dialect none).issues (written results) "" = (Eslint.dialect none).issues (written (.list items)) "" ∧
      (Architecture.dialect none).issues (written output) "" =
        (Architecture.dialect none).issues (written summary) "" := by
  intro items diagnostics results output summary written
  have hitem : Json.IsPlain (.mapping [(.text "severity", .list [])]) :=
    .entry (.list [] fun _ h => absurd h List.not_mem_nil) "severity"
  have hplain : Json.IsPlain (.list items) :=
    .list _ (List.forall_mem_cons.mpr ⟨.text "x", List.forall_mem_singleton.mpr hitem⟩)
  have hbeside : Json.IsPlain diagnostics :=
    .mapping _ (List.forall_mem_cons.mpr ⟨⟨_, rfl⟩, List.forall_mem_singleton.mpr ⟨_, rfl⟩⟩) (by decide)
      (List.forall_mem_cons.mpr ⟨.text "2", List.forall_mem_singleton.mpr hplain⟩)
  have hdiagnostics : Json.read? (trim (written diagnostics).toList) = some diagnostics :=
    Json.read?_write hbeside (.inr rfl)
  have hresults : Json.read? (trim (written results).toList) = some results :=
    Json.read?_write (hplain.entry "results") (.inr rfl)
  have houtput : Json.read? (trim (written output).toList) = some output :=
    Json.read?_write ((hplain.entry "violations").entry "output") (.inr rfl)
  have hsummary : Json.read? (trim (written summary).toList) = some summary :=
    Json.read?_write ((hplain.entry "violations").entry "summary") (.inr rfl)
  have hitems : Json.read? (trim (written (.list items)).toList) = some (.list items) :=
    Json.read?_write hplain (.inl rfl)
  obtain ⟨hoxlint, heslint, harchitecture⟩ := schemas_read_alike none items
  refine ⟨?_, ?_, ?_⟩
  · exact (hoxlint _ rfl).same _ _ _ _ hdiagnostics hitems
  · exact (heslint _ rfl).same _ _ _ _ hresults hitems
  · exact (harchitecture _ _ _ _ rfl rfl rfl rfl rfl).same _ _ _ _ houtput hsummary

/-- A list of the least number with too many digits is scanned. -/
theorem read_least_long_number :
    let text := String.ofList (Json.write (.list [.int unwritable]))
    (Oxlint.dialect none).read text "" = .ok (.text text) :=
  Oxlint.read_long_number (Nat.le_refl unwritable) none ""

end Checkup
