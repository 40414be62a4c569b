import WorkDepot.Metrics.Counters
import WorkDepot.Proofs.Path
import WorkDepot.Proofs.Text.Cut
import WorkDepot.Proofs.Text.Number
import WorkDepot.Proofs.Text.Order

/-! # Reading the exposition format

A scraper reads the text of a registry line by line. A line that begins with the name of a counter
and a brace has a label between quotes and a number behind it. In the label a backslash stands
before a backslash, before a quote and before the letter that is written for a line feed, so that a
quote without one ends the label and no label breaks a line. What is read of a counter is all that
it has, with its labels in the order of their bytes.
-/
namespace WorkDepot.Metrics

/-! ## What a scraper reads -/

/-- A label up to the quote that ends it, and what follows the quote. -/
def readLabel : Text → Option (Text × Text)
  | [] => none
  | '"' :: rest => some ([], rest)
  | '\\' :: c :: rest => do
    let (label, behind) ← readLabel rest
    return ((if c = 'n' then '\n' else c) :: label, behind)
  | '\\' :: [] => none
  | c :: rest => do
    let (label, behind) ← readLabel rest
    return (c :: label, behind)

/-- What a line of a counter begins with. -/
def Subject.opening (subject : Subject) : Text := subject.name ++ ['\x7b']

/-- The label and the number in a line of a counter. -/
def readLine (subject : Subject) (line : Text) : Option (Text × Nat) := do
  let quoted ← Text.strip? (subject.opening ++ "outcome=\"".toList) line
  let (label, behind) ← readLabel quoted
  let digits ← Text.strip? "\x7d ".toList behind
  return (label, ← Text.readDigits 10 digits)

/-- The lines of a counter. -/
def linesOf (subject : Subject) (rendered : Text) : List Text :=
  (Text.splitAt '\n' rendered).filter fun line => subject.opening <+: line

/-- The labels and numbers of a counter in a text, in their order, when all of its lines can be
read. -/
def readCounter (subject : Subject) (rendered : Text) : Option (List (Text × Nat)) :=
  (linesOf subject rendered).mapM (readLine subject)

/-! ## Lines -/

/-- The line of a label, without the line feed. -/
def countLine (subject : Subject) (entry : Text × Nat) : Text :=
  subject.opening ++ "outcome=\"".toList ++ entry.1.flatMap escapeLabelChar ++
    "\"\x7d ".toList ++ Text.decimal entry.2

theorem renderCount_eq (subject : Subject) (entry : Text × Nat) :
    renderCount subject entry.1 entry.2 = countLine subject entry ++ ['\n'] := by
  simp [renderCount, countLine, Subject.opening]

theorem readLabel_escaped (label behind : Text) :
    readLabel (label.flatMap escapeLabelChar ++ '"' :: behind) = some (label, behind) := by
  induction label with
  | nil => rfl
  | cons c label ih =>
    rw [List.flatMap_cons, List.append_assoc]
    by_cases hbackslash : c = '\\'
    · simp [escapeLabelChar, hbackslash, readLabel, ih]
    by_cases hfeed : c = '\n'
    · simp [escapeLabelChar, hfeed, readLabel, ih]
    by_cases hquote : c = '"'
    · simp [escapeLabelChar, hquote, readLabel, ih]
    simp [escapeLabelChar, hbackslash, hfeed, hquote, readLabel, ih]

theorem readLine_countLine (subject : Subject) (entry : Text × Nat) :
    readLine subject (countLine subject entry) = some entry := by
  have hline : countLine subject entry = (subject.opening ++ "outcome=\"".toList) ++
      (entry.1.flatMap escapeLabelChar ++ '"' :: ("\x7d ".toList ++ Text.decimal entry.2)) := by
    simp [countLine]
  have hdigits : Text.strip? "\x7d ".toList ("\x7d ".toList ++ Text.decimal entry.2) =
      some (Text.decimal entry.2) := Text.strip?_eq_some_iff.mpr rfl
  rw [readLine, Text.strip?_eq_some_iff.mpr hline]
  simp only [Option.bind_eq_bind, Option.bind_some, readLabel_escaped, hdigits,
    Text.readDigits_decimal]
  rfl

/-- No label breaks a line. -/
theorem feed_notMem_countLine (subject : Subject) (entry : Text × Nat) :
    '\n' ∉ countLine subject entry := by
  have hopening : '\n' ∉ subject.opening := by cases subject <;> decide
  have hlabel : '\n' ∉ entry.1.flatMap escapeLabelChar := by
    rw [List.mem_flatMap]
    rintro ⟨c, -, hc⟩
    unfold escapeLabelChar at hc
    split_ifs at hc with hbackslash hfeed hquote
    · simp at hc
    · simp at hc
    · simp at hc
    · exact hfeed (List.mem_singleton.mp hc).symm
  have hdigits : '\n' ∉ Text.decimal entry.2 := by
    intro hm
    exact absurd (Text.isDigitIn_of_mem_decimal hm).1 (by decide)
  unfold countLine
  simp [hopening, hlabel, hdigits]

theorem Subject.name_ne_nil (subject : Subject) : subject.name ≠ [] := by
  cases subject <;> decide

/-- The names differ in their first characters. -/
theorem Subject.eq_of_head {first second : Subject} (h : first.name.head? = second.name.head?) :
    first = second := by
  revert h
  cases first <;> cases second <;> decide

theorem opening_prefix_countLine {subject other : Subject} {entry : Text × Nat} :
    subject.opening <+: countLine other entry ↔ other = subject := by
  constructor
  · rintro ⟨rest, hrest⟩
    have hhead := congrArg List.head? hrest
    simp only [countLine, Subject.opening, List.append_assoc,
      List.head?_append_of_ne_nil _ (Subject.name_ne_nil _)] at hhead
    exact (Subject.eq_of_head hhead).symm
  · rintro rfl
    unfold countLine
    simp only [List.append_assoc]
    exact List.prefix_append _ _

/-! ## Families -/

/-- The lines that explain a counter. -/
def remarks (subject : Subject) : List Text :=
  ["# HELP ".toList ++ subject.name ++ ' ' :: subject.help,
   "# TYPE ".toList ++ subject.name ++ " counter".toList]

/-- All lines of a family. -/
def familyLines (subject : Subject) (family : Family) : List Text :=
  if family.isEmpty then [] else remarks subject ++ family.toList.map (countLine subject)

theorem renderFamily_eq (subject : Subject) (family : Family) :
    renderFamily subject family = (familyLines subject family).flatMap (· ++ ['\n']) := by
  unfold renderFamily familyLines
  split
  · rfl
  · simp [remarks, List.flatMap_map, renderCount_eq]

theorem splitAt_flatMap {lines : List Text} (h : ∀ line ∈ lines, '\n' ∉ line) :
    Text.splitAt '\n' (lines.flatMap (· ++ ['\n'])) = lines ++ [[]] := by
  induction lines with
  | nil => rfl
  | cons line lines ih =>
    have hline := h line List.mem_cons_self
    have hrest := ih fun other ho => h other (List.mem_cons_of_mem _ ho)
    rw [List.flatMap_cons, List.append_assoc, List.singleton_append, Text.splitAt_append, hrest,
      Text.splitAt_of_notMem hline]
    rfl

theorem feed_notMem_familyLines {subject : Subject} {family : Family} {line : Text}
    (h : line ∈ familyLines subject family) : '\n' ∉ line := by
  unfold familyLines at h
  split at h
  · cases h
  rcases List.mem_append.mp h with hremark | hcount
  · have hall : ∀ line ∈ remarks subject, '\n' ∉ line := by cases subject <;> decide
    exact hall line hremark
  · obtain ⟨entry, -, rfl⟩ := List.mem_map.mp hcount
    exact feed_notMem_countLine subject entry

/-- Among the lines of a family, those of a counter are the lines of its labels. -/
theorem filter_familyLines (subject other : Subject) (family : Family) :
    ((familyLines other family).filter fun line => subject.opening <+: line) =
      if other = subject then family.toList.map (countLine other) else [] := by
  have hremarks : (remarks other).filter (fun line => subject.opening <+: line) = [] := by
    cases subject <;> cases other <;> decide
  have hcounts : ((family.toList.map (countLine other)).filter fun line =>
      subject.opening <+: line) =
        if other = subject then family.toList.map (countLine other) else [] := by
    simp only [List.filter_map, Function.comp_def, opening_prefix_countLine]
    split <;> simp [*]
  unfold familyLines
  split
  · next hempty =>
    have hnil : family.toList = [] := by simpa using hempty
    simp [hnil]
  · rw [List.filter_append, hremarks, hcounts, List.nil_append]

/-- What is read of a counter is its family. -/
theorem readCounter_render (counters : Counters) (subject : Subject) :
    readCounter subject counters.render = some (counters.family subject).toList := by
  let lines := Subject.all.flatMap fun other => familyLines other (counters.family other)
  have hrender : counters.render = lines.flatMap (· ++ ['\n']) := by
    unfold Counters.render
    simp only [renderFamily_eq, lines, List.flatMap_assoc]
  have hfeed : ∀ line ∈ lines, '\n' ∉ line := by
    intro line hline
    obtain ⟨other, -, ho⟩ := List.mem_flatMap.mp hline
    exact feed_notMem_familyLines ho
  have hlines : linesOf subject counters.render =
      (counters.family subject).toList.map (countLine subject) := by
    have hlast : ([[]] : List Text).filter (fun line => subject.opening <+: line) = [] := by
      cases subject <;> decide
    rw [linesOf, hrender, splitAt_flatMap hfeed, List.filter_append, hlast, List.append_nil,
      List.filter_flatMap]
    simp only [filter_familyLines]
    cases subject <;> simp [Subject.all]
  have hread : readLine subject ∘ countLine subject = id ∘ some :=
    funext fun entry => readLine_countLine subject entry
  rw [readCounter, hlines, List.mapM_map, hread, ← List.mapM_map, Text.mapM_id_eq_some_iff]

/-- The labels of a family come in the order of their bytes, so that none comes twice. -/
theorem Family.pairwise_keys (family : Family) :
    family.keys.Pairwise fun first second => Text.encode first < Text.encode second :=
  Std.ExtTreeMap.ordered_keys.imp Text.encode_lt_encode

theorem Family.toList_eq_keys (family : Family) :
    family.toList = family.keys.map fun label => (label, family.count label) := by
  rw [← Std.ExtTreeMap.map_fst_toList_eq_keys, List.map_map]
  refine (List.map_id _).symm.trans (List.map_congr_left ?_)
  rintro ⟨label, number⟩ hentry
  have hget := Std.ExtTreeMap.mem_toList_iff_getElem?_eq_some.mp hentry
  simp [count, Std.ExtTreeMap.getD_eq_getD_getElem?, hget]

end WorkDepot.Metrics
