import ClusterScaling.Decimal.Literal

/-!
# Reading the line format

A metrics database reads an exposition line by line. A line that is blank
or a comment says nothing, and any other is a sample: the name of a figure,
perhaps labels in braces, a number, and perhaps the time at which it was
taken. The value of a label is a text in quotes. A quote, a backslash and
the end of a line stand in such a text only behind a backslash, as `\"`,
`\\` and `\n`, and nothing else may stand behind one.

A line is cut into tokens first (`tokens?`), and escapes are gone with
that. `read?` gives the points of all samples, or nothing if some line is
no sample.

A text without the three characters is read as it stands. Any other is
not: read without having been escaped, it ends early, or not at all, or
says something else (`points?_ne_of_not_plain`). Two backslashes are the case
that takes some care, since they are read as one, so the texts agree up to
there and differ in how many are left; this number only grows
(`tokens?_ne`).
-/

namespace ClusterScaling.Exposition

open Decimal

/-- A point: a figure, the labels in their order, and the number that is written. -/
structure Point where
  /-- The name of the figure. -/
  name : String
  /-- The labels and their values. -/
  labels : List (String × String)
  /-- The number. -/
  value : Literal
  deriving DecidableEq

/-! ## Tokens -/

/-- What a sample consists of. -/
inductive Token where
  /-- A name or a number. -/
  | word (cs : List Char)
  /-- A text that was in quotes. -/
  | text (cs : List Char)
  /-- A brace, a comma or an equals sign. -/
  | mark (c : Char)
  deriving DecidableEq

/-- Where a reader of a line is, with what it has read of a token. -/
inductive Mode where
  /-- Outside of texts. -/
  | outside (seen : List Char)
  /-- In a text. -/
  | text (seen : List Char)
  /-- Behind a backslash in a text. -/
  | escape (seen : List Char)

/-- Blanks separate tokens. -/
def isBlank (c : Char) : Bool := c == ' ' || c == '\t'

/-- Marks are tokens of their own. -/
def isMark (c : Char) : Bool := ['\x7b', '\x7d', ',', '='].contains c

/-- What a character behind a backslash stands for. -/
def escaped? (c : Char) : Option Char :=
  if c = '\\' then some '\\' else if c = '"' then some '"' else if c = 'n' then some '\n' else none

/-- The word that has been read, if there is one. -/
def Token.wordOf (seen : List Char) : List Token := if seen = [] then [] else [.word seen]

/-- The tokens of the rest of a line. -/
def tokens? : Mode → List Char → Option (List Token)
  | .outside seen, [] => some (Token.wordOf seen)
  | .outside seen, c :: cs =>
    if c = '"' then (tokens? (.text []) cs).map (Token.wordOf seen ++ ·)
    else if isMark c then (tokens? (.outside []) cs).map (Token.wordOf seen ++ .mark c :: ·)
    else if isBlank c then (tokens? (.outside []) cs).map (Token.wordOf seen ++ ·)
    else tokens? (.outside (seen ++ [c])) cs
  | .text _, [] => none
  | .text seen, c :: cs =>
    if c = '"' then (tokens? (.outside []) cs).map (.text seen :: ·)
    else if c = '\\' then tokens? (.escape seen) cs
    else tokens? (.text (seen ++ [c])) cs
  | .escape _, [] => none
  | .escape seen, c :: cs =>
    match escaped? c with
    | some d => tokens? (.text (seen ++ [d])) cs
    | none => none

/-! ## Samples -/

/-- Whether a word is a name, if further characters are allowed in it. -/
def isName (further : Char → Bool) : List Char → Bool
  | [] => false
  | c :: cs => (c.isAlpha || c == '_' || further c)
    && cs.all fun c => c.isAlphanum || c == '_' || further c

/-- Whether a word is the name of a label. -/
def isLabelName (w : List Char) : Bool := isName (fun _ => false) w

/-- Whether a word is the name of a figure. -/
def isMetricName (w : List Char) : Bool := isName (· == ':') w

/-- The labels up to the closing brace, and the tokens behind it. -/
def labels? : List Token → Option (List (String × String) × List Token)
  | .mark c :: ts => if c = '\x7d' then some ([], ts) else none
  | .word name :: .mark e :: .text value :: .mark c :: ts =>
    if isLabelName name && e == '=' then
      if c = ',' then
        (labels? ts).map fun r => ((String.ofList name, String.ofList value) :: r.1, r.2)
      else if c = '\x7d' then some ([(String.ofList name, String.ofList value)], ts)
      else none
    else none
  | _ => none

/-- The number at the end of a sample, which may be followed by a time. -/
def number? : List Token → Option Literal
  | [.word value] => Literal.ofText? value
  | [.word value, .word time] =>
    (Literal.exponent? time).bind fun _ => Literal.ofText? value
  | _ => none

/-- The point of a sample. -/
def point? (line : List Char) : Option Point :=
  match tokens? (.outside []) line with
  | some (.word name :: ts) =>
    if isMetricName name then
      match ts with
      | .mark c :: ts =>
        if c = '\x7b' then
          (labels? ts).bind fun r =>
            if (r.1.map Prod.fst).Nodup then
              (number? r.2).map fun value => ⟨String.ofList name, r.1, value⟩
            else none
        else none
      | ts => (number? ts).map fun value => ⟨String.ofList name, [], value⟩
    else none
  | _ => none

/-- Whether a line is a sample, and neither blank nor a comment. -/
def isSample (line : List Char) : Bool :=
  match line.dropWhile isBlank with
  | [] => false
  | c :: _ => c != '#'

/-- The points of all samples. -/
def points? (cs : List Char) : Option (List Point) :=
  ((cs.splitOn '\n').filter isSample).mapM point?

/-- The points that an exposition names. -/
def read? (text : String) : Option (List Point) := points? text.toList

/-! ## Tokens that are read as they stand -/

/-- Whether a character may stand in a word. -/
def isWordChar (c : Char) : Bool := c != '"' && c != '\n' && !isMark c && !isBlank c

/-- Whether a text needs no escapes. -/
def IsPlain (s : String) : Prop := ∀ c ∈ s.toList, c ≠ '"' ∧ c ≠ '\\' ∧ c ≠ '\n'

instance (s : String) : Decidable (IsPlain s) :=
  List.decidableBAll (fun c => c ≠ '"' ∧ c ≠ '\\' ∧ c ≠ '\n') s.toList

section

variable {w : List Char}

/-- A word is read through. -/
theorem tokens?_word (hw : ∀ c ∈ w, isWordChar c = true) (seen rest : List Char) :
    tokens? (.outside seen) (w ++ rest) = tokens? (.outside (seen ++ w)) rest := by
  induction w generalizing seen with
  | nil => rw [List.append_nil, List.nil_append]
  | cons c w ih =>
    obtain ⟨hc, hrest⟩ := List.forall_mem_cons.mp hw
    simp only [isWordChar, Bool.and_eq_true, bne_iff_ne, Bool.not_eq_true'] at hc
    obtain ⟨⟨⟨hquote, -⟩, hmark⟩, hblank⟩ := hc
    rw [List.cons_append, tokens?, if_neg hquote, hmark, hblank, if_neg Bool.false_ne_true,
      if_neg Bool.false_ne_true, ih hrest, List.append_assoc]
    rfl

/-- **A plain text is read as it stands.** -/
theorem tokens?_text {v : List Char} (hv : ∀ c ∈ v, c ≠ '"' ∧ c ≠ '\\' ∧ c ≠ '\n')
    (seen rest : List Char) : tokens? (.text seen) (v ++ '"' :: rest)
      = (tokens? (.outside []) rest).map (.text (seen ++ v) :: ·) := by
  induction v generalizing seen with
  | nil => rw [List.append_nil, List.nil_append, tokens?, if_pos rfl]
  | cons c v ih =>
    obtain ⟨⟨hquote, hslash, -⟩, hrest⟩ := List.forall_mem_cons.mp hv
    rw [List.cons_append, tokens?, if_neg hquote, if_neg hslash, ih hrest, List.append_assoc]
    rfl

/-- A mark ends a word. -/
theorem tokens?_mark {c : Char} (hc : isMark c = true) (seen rest : List Char) :
    tokens? (.outside seen) (c :: rest)
      = (tokens? (.outside []) rest).map (Token.wordOf seen ++ .mark c :: ·) := by
  have hquote : c ≠ '"' := by
    rintro rfl
    cases hc
  rw [tokens?, if_neg hquote, if_pos hc]

theorem isWordChar_of_isAlphanum {c : Char} (hc : c.isAlphanum = true) : isWordChar c = true := by
  have hne (d : Char) (hd : d.isAlphanum = false) : c ≠ d := by
    rintro rfl
    rw [hc] at hd
    cases hd
  simp [isWordChar, isMark, isBlank, hne '"' rfl, hne '\n' rfl, hne '\x7b' rfl, hne '\x7d' rfl,
    hne ',' rfl, hne '=' rfl, hne ' ' rfl, hne '\t' rfl]

/-- Names are words. -/
theorem isWordChar_of_isName {further : Char → Bool}
    (hfurther : ∀ c, further c = true → isWordChar c = true) (h : isName further w = true) :
    w ≠ [] ∧ ∀ c ∈ w, isWordChar c = true := by
  have hword (c : Char) (hc : (c.isAlphanum || c == '_' || further c) = true) :
      isWordChar c = true := by
    rw [Bool.or_eq_true, Bool.or_eq_true, beq_iff_eq] at hc
    rcases hc with (halnum | rfl) | hc
    · exact isWordChar_of_isAlphanum halnum
    · rfl
    · exact hfurther c hc
  cases w with
  | nil => cases h
  | cons c w =>
    obtain ⟨hc, hrest⟩ := Bool.and_eq_true_iff.mp h
    refine ⟨nofun, List.forall_mem_cons.mpr ⟨hword c ?_, fun d hd => hword d
      (List.all_eq_true.mp hrest d hd)⟩⟩
    rw [Bool.or_eq_true, Bool.or_eq_true] at hc ⊢
    exact hc.imp_left fun h => h.imp_left fun halpha => by
      rw [Char.isAlphanum, halpha, Bool.true_or]

theorem isWordChar_of_isLabelName (h : isLabelName w = true) :
    w ≠ [] ∧ ∀ c ∈ w, isWordChar c = true :=
  isWordChar_of_isName (fun _ h => Bool.noConfusion h) h

theorem isWordChar_of_isMetricName (h : isMetricName w = true) :
    w ≠ [] ∧ ∀ c ∈ w, isWordChar c = true :=
  isWordChar_of_isName (fun c hc => by rw [beq_iff_eq.mp hc]; rfl) h

/-- A word is on one line. -/
theorem not_mem_of_isWordChar (hw : ∀ c ∈ w, isWordChar c = true) : '\n' ∉ w := fun hmem =>
  absurd (hw _ hmem) (by decide)

end

/-! ## Samples that are read as they are written -/

/-- A label as it is written without escapes. -/
def labelText (l : String × String) : List Char :=
  l.1.toList ++ '=' :: '"' :: (l.2.toList ++ ['"'])

/-- Whether a label is written so that it can be read. -/
def IsLabel (l : String × String) : Prop :=
  isLabelName l.1.toList = true ∧ IsPlain l.2

instance (l : String × String) : Decidable (IsLabel l) :=
  inferInstanceAs (Decidable (isLabelName l.1.toList = true ∧ IsPlain l.2))

/-- A label is on one line. -/
theorem not_mem_labelText {l : String × String} (hl : IsLabel l) : '\n' ∉ labelText l := by
  have hname := not_mem_of_isWordChar (isWordChar_of_isLabelName hl.1).2
  have hvalue : '\n' ∉ l.2.toList := fun h => (hl.2 _ h).2.2 rfl
  simp [labelText, hname, hvalue]

/-- A label is read as three tokens. -/
theorem tokens?_label {l : String × String} (hl : IsLabel l) (rest : List Char) :
    tokens? (.outside []) (labelText l ++ rest) = (tokens? (.outside []) rest).map fun ts =>
      .word l.1.toList :: .mark '=' :: .text l.2.toList :: ts := by
  obtain ⟨hne, hword⟩ := isWordChar_of_isLabelName hl.1
  unfold labelText
  rw [List.append_assoc, tokens?_word hword, List.cons_append, tokens?_mark rfl, List.cons_append,
    tokens?, if_pos rfl, List.append_assoc, List.singleton_append, tokens?_text hl.2,
    Option.map_map, Option.map_map]
  simp [Token.wordOf, hne, Function.comp_def]

/-- **Labels are read as they are written.** -/
theorem labels?_tokens {ls : List (String × String)} (hls : ∀ l ∈ ls, IsLabel l)
    {rest : List Char} {ts : List Token} (hrest : tokens? (.outside []) rest = some ts) :
    ∃ us, tokens? (.outside []) ([','].intercalate (ls.map labelText) ++ '\x7d' :: rest) = some us
      ∧ labels? us = some (ls, ts) := by
  have hclose : tokens? (.outside []) ('\x7d' :: rest) = some (.mark '\x7d' :: ts) := by
    rw [tokens?_mark rfl, hrest]
    rfl
  induction ls with
  | nil => exact ⟨_, hclose, rfl⟩
  | cons l ls ih =>
    obtain ⟨hl, hls⟩ := List.forall_mem_cons.mp hls
    cases ls with
    | nil =>
      rw [List.map_cons, List.map_nil, List.intercalate_singleton, tokens?_label hl, hclose]
      refine ⟨_, rfl, ?_⟩
      simp [labels?, hl.1]
    | cons l' ls =>
      obtain ⟨us, hus, hread⟩ := ih hls
      rw [List.map_cons] at hus
      rw [List.map_cons, List.map_cons, List.intercalate_cons_cons, List.append_assoc,
        List.append_assoc, tokens?_label hl, List.singleton_append, tokens?_mark rfl, hus]
      refine ⟨_, rfl, ?_⟩
      simp [labels?, hl.1, hread, Token.wordOf]

/-- A sample with labels, as it is written without escapes. -/
def sampleText (name : String) (ls : List (String × String)) (value : List Char) : List Char :=
  name.toList ++ '\x7b' :: ([','].intercalate (ls.map labelText) ++ '\x7d' :: ' ' :: value)

/-- A sample is on one line. -/
theorem not_mem_sampleText {name : String} (hname : isMetricName name.toList = true)
    {ls : List (String × String)} (hls : ∀ l ∈ ls, IsLabel l) {value : List Char}
    (hword : ∀ c ∈ value, isWordChar c = true) : '\n' ∉ sampleText name ls value := by
  have hlabels : '\n' ∉ [','].intercalate (ls.map labelText) := by
    induction ls with
    | nil => exact nofun
    | cons l ls ih =>
      obtain ⟨hl, hls⟩ := List.forall_mem_cons.mp hls
      cases ls with
      | nil => simpa using not_mem_labelText hl
      | cons l' ls =>
        have hrest := ih hls
        rw [List.map_cons] at hrest
        rw [List.map_cons, List.map_cons, List.intercalate_cons_cons]
        simp [not_mem_labelText hl, hrest]
  have hnamed := not_mem_of_isWordChar (isWordChar_of_isMetricName hname).2
  simp [sampleText, hnamed, hlabels, not_mem_of_isWordChar hword]

/-- **A sample is read as it is written**, if its labels need no escapes. -/
theorem point?_sampleText {name : String} (hname : isMetricName name.toList = true)
    {ls : List (String × String)} (hls : ∀ l ∈ ls, IsLabel l) (hnodup : (ls.map Prod.fst).Nodup)
    {value : List Char} (hword : ∀ c ∈ value, isWordChar c = true) {n : Literal}
    (hvalue : Literal.ofText? value = some n) :
    point? (sampleText name ls value) = some ⟨name, ls, n⟩ := by
  have hne : value ≠ [] := by
    rintro rfl
    cases hvalue
  have hnumber : tokens? (.outside []) (' ' :: value) = some [.word value] := by
    have hread := tokens?_word hword [] []
    rw [List.append_nil, List.nil_append] at hread
    rw [tokens?, if_neg (by decide), if_neg (by decide), if_pos (by decide), hread]
    simp [tokens?, Token.wordOf, hne]
  obtain ⟨us, hus, hlabels⟩ := labels?_tokens hls hnumber
  obtain ⟨hnonempty, hwords⟩ := isWordChar_of_isMetricName hname
  have htokens : tokens? (.outside []) (sampleText name ls value)
      = some (.word name.toList :: .mark '\x7b' :: us) := by
    unfold sampleText
    rw [tokens?_word hwords, tokens?_mark rfl, hus]
    simp [Token.wordOf, hnonempty]
  unfold point?
  rw [htokens]
  simp [hname, hlabels, hnodup, number?, hvalue]

/-! ## Lines -/

/-- A line is read by itself. -/
theorem points?_line {line : List Char} (hline : '\n' ∉ line) (rest : List Char) :
    points? (line ++ '\n' :: rest) = if isSample line then
        (point? line).bind fun p => (points? rest).map (p :: ·)
      else points? rest := by
  unfold points?
  rw [List.splitOn_append_cons_self_of_not_mem hline, List.filter_cons]
  split
  · rw [List.mapM_cons]
    cases point? line with
    | none => rfl
    | some p =>
      cases List.mapM point? ((rest.splitOn '\n').filter isSample) <;> rfl
  · rfl

/-- Whole lines say some points, whatever follows them. -/
def Reads (cs : List Char) (ps : List Point) : Prop :=
  ∀ rest, points? (cs ++ rest) = (points? rest).map (ps ++ ·)

theorem reads_nil : Reads [] [] := fun rest => by
  cases h : points? rest <;> simp [h]

theorem Reads.append {cs ds : List Char} {ps qs : List Point} (h : Reads cs ps)
    (h' : Reads ds qs) : Reads (cs ++ ds) (ps ++ qs) := fun rest => by
  rw [List.append_assoc, h, h', Option.map_map]
  simp only [Function.comp_def, List.append_assoc]

theorem reads_flatMap {α : Type} {xs : List α} {f : α → List Char} {g : α → List Point}
    (h : ∀ x ∈ xs, Reads (f x) (g x)) : Reads (xs.flatMap f) (xs.flatMap g) := by
  induction xs with
  | nil => exact reads_nil
  | cons x xs ih =>
    obtain ⟨hx, hxs⟩ := List.forall_mem_cons.mp h
    rw [List.flatMap_cons, List.flatMap_cons]
    exact hx.append (ih hxs)

/-- Whole lines by themselves say just the points that they say before others. -/
theorem Reads.points? {cs : List Char} {ps : List Point} (h : Reads cs ps) :
    points? cs = some ps := by
  have hall := h []
  rw [List.append_nil] at hall
  rw [hall]
  show some (ps ++ []) = _
  rw [List.append_nil]

/-- **Points are read exactly if every sample has one.** -/
theorem isSome_points?_iff (cs : List Char) : (points? cs).isSome = true
    ↔ ∀ line ∈ cs.splitOn '\n', isSample line = true → (point? line).isSome = true := by
  simp only [← and_imp, ← List.mem_filter]
  unfold points?
  generalize (cs.splitOn '\n').filter isSample = lines
  induction lines with
  | nil => exact iff_of_true rfl nofun
  | cons line lines ih =>
    rw [List.forall_mem_cons, ← ih, List.mapM_cons]
    cases point? line with
    | none => exact iff_of_false nofun fun h => nomatch h.1
    | some p =>
      rw [and_iff_right (show (some p).isSome = true from rfl)]
      cases lines.mapM point? <;> rfl

/-- A comment says nothing. -/
theorem reads_comment {line : List Char} (hline : '\n' ∉ line) :
    Reads ('#' :: (line ++ ['\n'])) [] := fun rest => by
  have hcomment : '\n' ∉ '#' :: line := fun h => by
    rcases List.mem_cons.mp h with heq | hmem
    · cases heq
    · exact hline hmem
  have hread := points?_line hcomment rest
  rw [List.cons_append, List.append_assoc, List.singleton_append, ← List.cons_append, hread]
  show Exposition.points? rest = _
  cases Exposition.points? rest <;> rfl

/-- A line that begins with a name is a sample. -/
theorem isSample_of_isMetricName {name : List Char} (hname : isMetricName name = true)
    (rest : List Char) : isSample (name ++ rest) = true := by
  obtain ⟨-, hwords⟩ := isWordChar_of_isMetricName hname
  cases name with
  | nil => cases hname
  | cons c name =>
    have hblank : isBlank c = false := by
      have hc := hwords c List.mem_cons_self
      simp only [isWordChar, Bool.and_eq_true, Bool.not_eq_true'] at hc
      exact hc.2
    have hcomment : c ≠ '#' := by
      rintro rfl
      cases hname
    unfold isSample
    rw [List.cons_append, List.dropWhile_cons_of_neg (by rw [hblank]; exact Bool.false_ne_true)]
    exact bne_iff_ne.mpr hcomment

/-- **A sample says its point**, if its labels need no escapes. -/
theorem reads_sampleText {name : String} (hname : isMetricName name.toList = true)
    {ls : List (String × String)} (hls : ∀ l ∈ ls, IsLabel l) (hnodup : (ls.map Prod.fst).Nodup)
    {value : List Char} (hword : ∀ c ∈ value, isWordChar c = true) {n : Literal}
    (hvalue : Literal.ofText? value = some n) :
    Reads (sampleText name ls value ++ ['\n']) [⟨name, ls, n⟩] := fun rest => by
  have hsample : isSample (sampleText name ls value) = true :=
    isSample_of_isMetricName hname _
  rw [List.append_assoc, List.singleton_append, points?_line (not_mem_sampleText hname hls hword),
    if_pos hsample, point?_sampleText hname hls hnodup hword hvalue]
  rfl

/-! ## Texts that are not read as they stand -/

/-- What has been read of a text stays at its beginning. -/
theorem exists_text_of_tokens? (cs seen : List Char) {ts : List Token} :
    (tokens? (.text seen) cs = some ts → ∃ v us, ts = .text (seen ++ v) :: us)
      ∧ (tokens? (.escape seen) cs = some ts → ∃ v us, ts = .text (seen ++ v) :: us) := by
  induction cs generalizing seen with
  | nil => exact ⟨nofun, nofun⟩
  | cons c cs ih =>
    have hmore {d : Char} (h : tokens? (.text (seen ++ [d])) cs = some ts) :
        ∃ v us, ts = .text (seen ++ v) :: us := by
      obtain ⟨v, us, rfl⟩ := (ih (seen ++ [d])).1 h
      exact ⟨d :: v, us, by rw [List.append_assoc]; rfl⟩
    constructor
    · intro h
      rw [tokens?] at h
      split at h
      · obtain ⟨us, -, rfl⟩ := Option.map_eq_some_iff.mp h
        exact ⟨[], us, by rw [List.append_nil]⟩
      · split at h
        · exact (ih seen).2 h
        · exact hmore h
    · intro h
      rw [tokens?] at h
      split at h
      · exact hmore h
      · cases h

/-- What is read behind another character than a backslash does not begin with one. -/
theorem tokens?_ne_of_ne {d : Char} (hd : d ≠ '\\') (seen cs rest : List Char) (ts : List Token) :
    tokens? (.text (seen ++ [d])) cs ≠ some (.text (seen ++ '\\' :: rest) :: ts) := by
  intro h
  obtain ⟨v, us, heq⟩ := (exists_text_of_tokens? cs (seen ++ [d])).1 h
  injection heq with htext _
  injection htext with htext
  rw [List.append_assoc] at htext
  injection List.append_cancel_left htext with hhead _
  exact hd hhead.symm

/-- A quote ends a text of which something is left. -/
theorem tokens?_quote_ne {rest : List Char} (hrest : rest ≠ []) (seen cs : List Char)
    (ts : List Token) : tokens? (.text seen) ('"' :: cs) ≠ some (.text (seen ++ rest) :: ts) := by
  intro h
  rw [tokens?, if_pos rfl] at h
  obtain ⟨us, -, heq⟩ := Option.map_eq_some_iff.mp h
  exact hrest (List.self_eq_append_right.mp (Token.text.inj (List.cons.inj heq).1))

/-- What stands on the first line. -/
def firstLine (cs : List Char) : List Char := cs.takeWhile (· != '\n')

theorem firstLine_cons {c : Char} (hc : c ≠ '\n') (cs : List Char) :
    firstLine (c :: cs) = c :: firstLine cs :=
  List.takeWhile_cons_of_pos (bne_iff_ne.mpr hc)

theorem firstLine_append {cs : List Char} (h : '\n' ∉ cs) (rest : List Char) :
    firstLine (cs ++ rest) = cs ++ firstLine rest :=
  List.takeWhile_append_of_pos fun _ hc => bne_iff_ne.mpr fun heq => h (heq ▸ hc)

theorem firstLine_end (cs : List Char) : firstLine ('\n' :: cs) = [] :=
  List.takeWhile_cons_of_neg (by decide)

/-- **A text that is not plain is not read as it stands**, and neither is one from which backslashes
in front have gone missing. The induction is on the text. Two backslashes in it are read as one, so
`n` counts those of which nothing is left; the second part is about the place between the two. -/
theorem tokens?_ne (key tail : List Char) (n : Nat) (seen : List Char) (ts : List Token) :
    ((0 < n ∨ ¬ ∀ c ∈ key, c ≠ '"' ∧ c ≠ '\\' ∧ c ≠ '\n') →
        tokens? (.text seen) (firstLine (key ++ '"' :: tail))
          ≠ some (.text (seen ++ (List.replicate n '\\' ++ key)) :: ts))
      ∧ tokens? (.escape seen) (firstLine (key ++ '"' :: tail))
        ≠ some (.text (seen ++ (List.replicate (n + 1) '\\' ++ key)) :: ts) := by
  induction key generalizing n seen with
  | nil =>
    rw [List.nil_append, firstLine_cons (by decide)]
    refine ⟨?_, tokens?_ne_of_ne (by decide) seen _ _ ts⟩
    rintro (hn | hplain)
    · refine tokens?_quote_ne ?_ _ _ _
      rw [List.append_nil, ne_eq, List.replicate_eq_nil_iff]
      omega
    · exact absurd nofun hplain
  | cons c key ih =>
    have hsucc (m : Nat) :
        List.replicate m '\\' ++ '\\' :: key = List.replicate (m + 1) '\\' ++ key := by
      rw [List.replicate_succ', List.append_assoc, List.singleton_append]
    rw [List.cons_append]
    by_cases hend : c = '\n'
    · rw [hend, firstLine_end]
      exact ⟨fun _ => nofun, nofun⟩
    rw [firstLine_cons hend]
    constructor
    · intro hleft
      by_cases hquote : c = '"'
      · rw [hquote]
        exact tokens?_quote_ne (List.append_ne_nil_of_right_ne_nil _ (List.cons_ne_nil _ _)) _ _ _
      · by_cases hslash : c = '\\'
        · rw [hslash, hsucc, tokens?, if_neg (by decide), if_pos rfl]
          exact (ih n seen).2
        · rw [tokens?, if_neg hquote, if_neg hslash]
          cases n with
          | zero =>
            -- the character is read as it stands, so something behind it is not plain
            have hkey : ¬ ∀ c ∈ key, c ≠ '"' ∧ c ≠ '\\' ∧ c ≠ '\n' := fun h =>
              (hleft.resolve_left (Nat.lt_irrefl 0)) (List.forall_mem_cons.mpr
                ⟨⟨hquote, hslash, hend⟩, h⟩)
            have hrest := (ih 0 (seen ++ [c])).1 (.inr hkey)
            rwa [List.append_assoc] at hrest
          | succ n => exact tokens?_ne_of_ne hslash seen _ _ ts
    · rw [tokens?]
      unfold escaped?
      by_cases hslash : c = '\\'
      · rw [if_pos hslash, hslash, hsucc]
        have hrest := (ih (n + 1) (seen ++ ['\\'])).1 (.inl (Nat.succ_pos n))
        rwa [List.append_assoc] at hrest
      · rw [if_neg hslash]
        split
        · next d hd =>
          have hne : d ≠ '\\' := by
            split at hd
            · cases hd
              decide
            · split at hd
              · cases hd
                decide
              · cases hd
          exact tokens?_ne_of_ne hne seen _ _ ts
        · nofun

/-- The first of the lines is what stands before their first end. -/
theorem splitOn_eq_firstLine (cs : List Char) :
    ∃ lines, cs.splitOn '\n' = firstLine cs :: lines := by
  by_cases hend : '\n' ∈ cs
  · obtain ⟨line, rest, rfl, hline⟩ := List.eq_append_cons_of_mem hend
    rw [List.splitOn_append_cons_self_of_not_mem hline, firstLine_append hline, firstLine_end,
      List.append_nil]
    exact ⟨_, rfl⟩
  · have hwhole : firstLine cs = cs := by
      have happend := firstLine_append hend []
      rwa [List.append_nil, show firstLine [] = [] from rfl, List.append_nil] at happend
    rw [List.splitOn_eq_singleton hend, hwhole]
    exact ⟨_, rfl⟩

/-- The first label is the one that is written first. -/
theorem labels?_head {k v : List Char} {e : Char} {ts : List Token}
    {r : List (String × String) × List Token}
    (h : labels? (.word k :: .mark e :: .text v :: ts) = some r) :
    r.1.head? = some (String.ofList k, String.ofList v) := by
  cases ts with
  | nil => cases h
  | cons t ts =>
    cases t with
    | word => cases h
    | text => cases h
    | mark c =>
      rw [labels?] at h
      split at h
      · split at h
        · obtain ⟨r, -, rfl⟩ := Option.map_eq_some_iff.mp h
          rfl
        · split at h
          · cases h
            rfl
          · cases h
      · cases h

/-- A point has the label that comes first in its sample. -/
theorem point?_head {line name k v : List Char} {e : Char} {ts : List Token}
    (htokens : tokens? (.outside []) line
      = some (.word name :: .mark '\x7b' :: .word k :: .mark e :: .text v :: ts))
    {p : Point} (h : point? line = some p) :
    p.labels.head? = some (String.ofList k, String.ofList v) := by
  unfold point? at h
  rw [htokens] at h
  dsimp only at h
  split at h
  · obtain ⟨r, hr, hrest⟩ := Option.bind_eq_some_iff.mp h
    split at hrest
    · obtain ⟨n, -, rfl⟩ := Option.map_eq_some_iff.mp hrest
      exact labels?_head hr
    · cases hrest
  · cases h

/-- A sample up to the first of its texts. -/
theorem tokens?_opening {name k : List Char} (hname : isMetricName name = true)
    (hk : isLabelName k = true) (rest : List Char) :
    tokens? (.outside []) (name ++ '\x7b' :: (k ++ '=' :: '"' :: rest))
      = (tokens? (.text []) rest).map fun ts =>
          .word name :: .mark '\x7b' :: .word k :: .mark '=' :: ts := by
  obtain ⟨hname₀, hnamed⟩ := isWordChar_of_isMetricName hname
  obtain ⟨hk₀, hlabel⟩ := isWordChar_of_isLabelName hk
  rw [tokens?_word hnamed, tokens?_mark rfl, tokens?_word hlabel, tokens?_mark rfl, tokens?,
    if_pos rfl, Option.map_map, Option.map_map]
  simp [Token.wordOf, hname₀, hk₀, Function.comp_def]

/-- **A sample whose first label is not plain does not say its point**, whatever follows it. -/
theorem points?_ne_of_not_plain {name k key : String} (hname : isMetricName name.toList = true)
    (hk : isLabelName k.toList = true) (hkey : ¬ IsPlain key) (tail : List Char)
    {p : Point} (hp : p.labels.head? = some (k, key)) (ps : List Point) :
    points? (name.toList ++ '\x7b' :: (k.toList ++ '=' :: '"' :: (key.toList ++ '"' :: tail)))
      ≠ some (p :: ps) := by
  intro h
  obtain ⟨lines, hlines⟩ := splitOn_eq_firstLine
    (name.toList ++ '\x7b' :: (k.toList ++ '=' :: '"' :: (key.toList ++ '"' :: tail)))
  rw [firstLine_append (not_mem_of_isWordChar (isWordChar_of_isMetricName hname).2),
    firstLine_cons (by decide),
    firstLine_append (not_mem_of_isWordChar (isWordChar_of_isLabelName hk).2),
    firstLine_cons (by decide), firstLine_cons (by decide)] at hlines
  have htokens := tokens?_opening hname hk (firstLine (key.toList ++ '"' :: tail))
  unfold points? at h
  rw [hlines, List.filter_cons, if_pos (isSample_of_isMetricName hname _), List.mapM_cons] at h
  obtain ⟨q, hq, hrest⟩ := Option.bind_eq_some_iff.mp h
  obtain ⟨qs, -, heq⟩ := Option.bind_eq_some_iff.mp hrest
  cases heq
  cases hread : tokens? (.text []) (firstLine (key.toList ++ '"' :: tail)) with
  | none =>
    rw [hread] at htokens
    unfold point? at hq
    rw [htokens] at hq
    cases hq
  | some ts =>
    obtain ⟨v, us, rfl⟩ := (exists_text_of_tokens? _ _).1 hread
    rw [hread] at htokens
    have hlabel : (k, key) = (String.ofList k.toList, String.ofList v) :=
      Option.some.inj (hp.symm.trans (point?_head htokens hq))
    have hv : v = key.toList := by
      rw [(Prod.mk.inj hlabel).2, String.toList_ofList]
    rw [hv] at hread
    exact (tokens?_ne key.toList tail 0 [] us).1 (.inr hkey) hread

end ClusterScaling.Exposition
