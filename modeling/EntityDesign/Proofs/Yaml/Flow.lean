import EntityDesign.Proofs.Text.Digits
import EntityDesign.Proofs.Yaml.Character
import EntityDesign.Yaml.Flow

/-! Plain and quoted scalars are read back as they are written, up to the text that ends them. White
space folds where it holds a line feed, so a text without one keeps its runs of spaces, and the line
breaks it may hold keep theirs. -/
namespace EntityDesign.Yaml.Flow
open Scalar Text

theorem fold_of_inLine {run : List Char} (inLine : ∀ c ∈ run, isBreak c = false) :
    fold run = run := by
  have hbreaks : run.filter isBreak = [] := List.filter_eq_nil_iff.2 (by simpa using inLine)
  rw [fold, hbreaks]

theorem endsLine_of_inLine {run : List Char} (inLine : ∀ c ∈ run, isBreak c = false) :
    endsLine run = false := by
  rw [endsLine, Option.any_eq_false]
  exact fun c hc => by simpa using inLine c (List.mem_of_getLast? hc)

section Plain
variable {outer : Nat}

theorem blankNext_append {s : List Char} (h : blankNext s = false) (e : List Char) :
    blankNext (s ++ e) = false := by
  cases s with
  | nil => cases h
  | cons c s => exact h

/-- What does not break off a plain text does not end its scalar either. -/
theorem endsPlain_append {b : Bool} {s : List Char} (hne : s ≠ []) (whole : breaksOff b s = false)
    (e : List Char) : endsPlain false (s ++ e) = false := by
  obtain ⟨c, s, rfl⟩ := List.exists_cons_of_ne_nil hne
  simp only [breaksOff, Bool.or_eq_false_iff, Bool.and_eq_false_iff] at whole
  simp only [List.cons_append, endsPlain, Bool.false_and, Bool.or_false, Bool.and_eq_false_iff]
  exact whole.1.1.imp_right (blankNext_append · e)

theorem breaksOff_behind_spaces {b : Bool} {n : Nat} {s : List Char}
    (whole : breaksOff b (spaces (n + 1) ++ s) = false) : breaksOff true s = false := by
  induction n generalizing b with
  | zero => simpa [spaces, breaksOff, isBlank] using whole
  | succ n ih =>
    rw [spaces_succ, List.cons_append, breaksOff, Bool.or_eq_false_iff] at whole
    exact ih whole.2

theorem hasTab_spaces (further : Bool) (column n : Nat) :
    hasTab outer further column (spaces n) = false := by
  induction n generalizing column with
  | zero => rfl
  | succ n ih =>
    rw [spaces_succ, hasTab]
    simpa [isBreak] using ih (column + 1)

theorem isStrayColon_block (s : List Char) : isStrayColon false s = false := by
  unfold isStrayColon
  split <;> rfl

/-- A visible character that does not end the scalar belongs to its text. -/
theorem plain_cons {c : Char} {s : List Char} (visible : isWhite c = false)
    (goesOn : endsPlain false (c :: s) = false) :
    plain false outer (c :: s) = (plain false outer s).map fun (t, r) => (c :: t, r) := by
  rw [plain]
  simp only [visible, isStrayColon_block, goesOn, Bool.false_eq_true, if_false]

/-- White space inside the scalar is folded. -/
theorem plain_run {w s : List Char} (hne : w ≠ []) (hw : ∀ c ∈ w, isWhite c = true)
    (hs : EndsRun isWhite s) (noTab : hasTab outer false 0 w = false)
    (goesOn : endsBetween false outer w s = false) :
    plain false outer (w ++ s) = (plain false outer s).map fun (t, r) => (fold w ++ t, r) := by
  obtain ⟨c, w, rfl⟩ := List.exists_cons_of_ne_nil hne
  obtain ⟨hc, hw⟩ := List.forall_mem_cons.1 hw
  rw [List.cons_append, plain]
  simp only [hc, takeWhile_run hw hs, dropWhile_run hw hs, noTab, goesOn, Bool.false_eq_true,
    if_true, if_false]

theorem plain_spaces {b : Bool} {n : Nat} {s e : List Char} (hs : EndsRun isWhite s) (hne : s ≠ [])
    (whole : breaksOff b (spaces (n + 1) ++ s) = false) :
    plain false outer (spaces (n + 1) ++ (s ++ e)) =
      (plain false outer (s ++ e)).map fun (t, r) => (spaces (n + 1) ++ t, r) := by
  have behind := breaksOff_behind_spaces whole
  have goesOn : endsBetween false outer (spaces (n + 1)) (s ++ e) = false := by
    rw [endsBetween, endsLine_of_inLine isBreak_of_mem_spaces, endsPlain_append hne behind e,
      List.any_eq_false.2 (by simpa using isBreak_of_mem_spaces)]
    obtain ⟨c, s, rfl⟩ := List.exists_cons_of_ne_nil hne
    simp_all [breaksOff]
  rw [plain_run (by simp [spaces]) isWhite_of_mem_spaces (hs.append hne e) (hasTab_spaces _ _ _)
    goesOn, fold_of_inLine isBreak_of_mem_spaces]

/-- A text that can be written plainly is read up to where a plain scalar ends. -/
theorem plain_append {s e u : List Char} {b : Bool} (last : plain false outer e = .ok ([], u))
    (chars : ∀ c ∈ s, isPrintable c = true ∧ isBreak c = false) (whole : breaksOff b s = false)
    (trimmed : s.getLast? ≠ some ' ') : plain false outer (s ++ e) = .ok (s, u) := by
  induction s using run_induction isWhite generalizing b with
  | nil => exact last
  | char c s visible ih =>
    have goesOn := endsPlain_append (List.cons_ne_nil c s) whole e
    obtain ⟨-, chars⟩ := List.forall_mem_cons.1 chars
    rw [breaksOff, Bool.or_eq_false_iff] at whole
    have htrim : s.getLast? ≠ some ' ' := fun h => trimmed (by simp [List.getLast?_cons, h])
    rw [List.cons_append] at goesOn ⊢
    rw [plain_cons visible goesOn, ih chars whole.2 htrim]
    rfl
  | run w s hne hw hs ih =>
    have hspaces : w = spaces w.length := eq_spaces fun c hc =>
      have h := chars c (List.mem_append_left s hc)
      eq_space_of_isWhite h.1 h.2 (hw c hc)
    obtain ⟨n, hn⟩ := Nat.exists_eq_succ_of_ne_zero (mt List.length_eq_zero_iff.1 hne)
    rw [hn] at hspaces
    have hs' : s ≠ [] := by
      rintro rfl
      refine trimmed ?_
      rw [hspaces, List.append_nil, spaces, List.getLast?_replicate]
      rfl
    have htrim : s.getLast? ≠ some ' ' := fun h => trimmed (by simp [List.getLast?_append, h])
    rw [hspaces] at whole ⊢
    rw [List.append_assoc, plain_spaces hs hs' whole,
      ih (fun c hc => chars c (List.mem_append_right w hc)) (breaksOff_behind_spaces whole) htrim]
    rfl

theorem plain_colon {v : List Char} (h : blankNext v = true) :
    plain false outer (':' :: v) = .ok ([], ':' :: v) := by
  rw [plain]
  simp only [show isWhite ':' = false from rfl, isStrayColon_block, endsPlain, h,
    Bool.false_eq_true, if_false]
  rfl

/-- A plain scalar ends with its line if the next text stands further out. -/
theorem plain_lineEnd {m : Nat} {u : List Char} (visible : EndsRun isWhite u)
    (further : m < outer ∨ u = []) :
    plain false outer ('\n' :: (spaces m ++ u)) = .ok ([], u) := by
  have hline : lastLine ('\n' :: spaces m) = spaces m := lastLine_break rfl [] m
  have htab : hasTab outer false 0 ('\n' :: spaces m) = false := by
    simpa [hasTab, isBreak] using hasTab_spaces true 0 m
  have hends : endsBetween false outer ('\n' :: spaces m) u = true := by
    rcases further with further | rfl
    · simp [endsBetween, hline, further, isBreak]
    · simp [endsBetween, endsPlain]
  rw [plain]
  simp only [show isWhite '\n' = true from rfl, takeWhile_run isWhite_of_mem_spaces visible,
    dropWhile_run isWhite_of_mem_spaces visible, htab, hends, Bool.false_eq_true, if_true, if_false]

end Plain

section Single
variable {indent : Nat}

theorem single_cons {c : Char} {s : List Char} (visible : isWhite c = false) (noQuote : c ≠ '\'') :
    single (c :: s) = (single s).map fun (t, r) => (c :: t, r) := by
  rw [single]
  · simp [visible]
  · exact fun _ h => absurd h noQuote
  · exact fun h => absurd h noQuote

theorem single_quote (s : List Char) :
    single ('\'' :: '\'' :: s) = (single s).map fun (t, r) => ('\'' :: t, r) := by
  rw [single]

theorem single_end {s : List Char} (h : s.head? ≠ some '\'') :
    single ('\'' :: s) = .ok ([], s) := by
  rw [single]
  rintro t rfl
  exact h rfl

theorem single_run {w s : List Char} (hne : w ≠ []) (hw : ∀ c ∈ w, isWhite c = true)
    (hs : EndsRun isWhite s) (goesOn : endsLine w = false) :
    single (w ++ s) = (single s).map fun (t, r) => (fold w ++ t, r) := by
  obtain ⟨c, w, rfl⟩ := List.exists_cons_of_ne_nil hne
  obtain ⟨hc, hw⟩ := List.forall_mem_cons.1 hw
  have noQuote : c ≠ '\'' := by
    rintro rfl
    cases hc
  rw [List.cons_append, single]
  · simp [hc, takeWhile_run hw hs, dropWhile_run hw hs, goesOn]
  · exact fun _ h => absurd h noQuote
  · exact fun h => absurd h noQuote

theorem singleBody_atBreak {s : List Char} (hs : EndsRun isBreak s) :
    singleBody indent true s = spaces indent ++ singleBody indent false s := by
  cases s with
  | nil => simp [singleBody]
  | cons c s => simp [singleBody, endsRun_cons.1 hs]

theorem singleBody_breaks {w s : List Char} (hne : w ≠ []) (hw : ∀ c ∈ w, isBreak c = true)
    (hs : EndsRun isBreak s) (b : Bool) :
    singleBody indent b (w ++ s) = w ++ (spaces indent ++ singleBody indent false s) := by
  induction w generalizing b with
  | nil => exact absurd rfl hne
  | cons c w ih =>
    obtain ⟨hc, hw⟩ := List.forall_mem_cons.1 hw
    rw [List.cons_append, singleBody, if_pos hc]
    by_cases h : w = []
    · subst w
      rw [List.nil_append, singleBody_atBreak hs]
      rfl
    · rw [ih h hw]
      rfl

theorem singleBody_spaces (n : Nat) (s : List Char) :
    singleBody indent false (spaces n ++ s) = spaces n ++ singleBody indent false s := by
  induction n with
  | zero => rfl
  | succ n ih => simpa [spaces_succ, singleBody, isBreak] using ih

/-- Line breaks other than the line feed stay, and the spaces behind them go. -/
theorem fold_breaks {w : List Char} (hw : ∀ c ∈ w, isBreak c = true) (noFeed : '\n' ∉ w)
    (hne : w ≠ []) (n : Nat) : fold (w ++ spaces n) = w := by
  have hbreaks : (w ++ spaces n).filter isBreak = w := by
    rw [List.filter_append, List.filter_eq_self.2 hw,
      List.filter_eq_nil_iff.2 fun c hc => by simp [isBreak_of_mem_spaces c hc], List.append_nil]
  rw [fold, hbreaks]
  split
  · exact absurd rfl hne
  · simp at noFeed
  · simp at noFeed
  · rfl

/-- What follows the white space in single quotes is no white space. -/
theorem endsRun_singleBody {s : List Char} (hs : EndsRun isWhite s) (t : List Char) :
    EndsRun isWhite (singleBody indent false s ++ '\'' :: t) := by
  cases s with
  | nil => exact endsRun_cons.2 rfl
  | cons c s =>
    have visible := endsRun_cons.1 hs
    have inLine := inLine_of_visible visible
    by_cases hc : c = '\''
    · subst c
      exact endsRun_cons.2 rfl
    · simpa [singleBody, inLine, hc] using endsRun_cons.2 visible

/-- White space in single quotes is a run of spaces or of line breaks, behind which the text goes on
at `indent`. -/
theorem single_white {w s t : List Char} (hne : w ≠ []) (hs : EndsRun isWhite s)
    (further : 0 < indent)
    (uniform : (∀ c ∈ w, isSpace c = true) ∨ (∀ c ∈ w, isBreak c = true) ∧ '\n' ∉ w) :
    single (singleBody indent false (w ++ s) ++ '\'' :: t) =
      (single (singleBody indent false s ++ '\'' :: t)).map fun (u, r) => (w ++ u, r) := by
  have hbody : EndsRun isWhite (singleBody indent false s ++ _) := endsRun_singleBody hs t
  rcases uniform with hw | ⟨hw, noFeed⟩
  · have hspaces : w = spaces w.length := eq_spaces fun c hc => by simpa [isSpace] using hw c hc
    rw [hspaces] at hne ⊢
    rw [singleBody_spaces, List.append_assoc, single_run hne isWhite_of_mem_spaces hbody
      (endsLine_of_inLine isBreak_of_mem_spaces), fold_of_inLine isBreak_of_mem_spaces]
  · have hwhite : ∀ c ∈ w ++ spaces indent, isWhite c = true := by
      intro c hc
      rcases List.mem_append.1 hc with hc | hc
      · exact isWhite_of_isBreak (hw c hc)
      · exact isWhite_of_mem_spaces c hc
    have goesOn : endsLine (w ++ spaces indent) = false := by
      obtain ⟨n, rfl⟩ := Nat.exists_eq_succ_of_ne_zero further.ne'
      simp [endsLine, spaces, List.getLast?_append, List.getLast?_replicate, isBreak]
    rw [singleBody_breaks hne hw (endsRun_isBreak hs), List.append_assoc, List.append_assoc,
      ← List.append_assoc w, single_run (by simp [hne]) hwhite hbody goesOn,
      fold_breaks hw noFeed hne]

/-- What is written in single quotes is read up to the closing quote. -/
theorem single_append {s t : List Char} (printable : ∀ c ∈ s, isPrintable c = true)
    (spaceBreak : hasPair isSpace isBreak s = false)
    (breakSpace : hasPair isBreak isSpace s = false) (noFeed : '\n' ∉ s)
    (closed : t.head? ≠ some '\'') (further : 0 < indent) :
    single (singleBody indent false s ++ '\'' :: t) = .ok (s, t) := by
  induction s using run_induction isWhite with
  | nil => exact single_end closed
  | char c s visible ih =>
    have inLine := inLine_of_visible visible
    have ih := ih (fun d hd => printable d (.tail c hd)) (hasPair_append (s := [c]) spaceBreak).2
      (hasPair_append (s := [c]) breakSpace).2 (fun h => noFeed (.tail c h))
    by_cases hc : c = '\''
    · subst c
      simp [singleBody, inLine, single_quote, ih, Except.map]
    · simp [singleBody, inLine, hc, single_cons visible hc, ih, Except.map]
  | run w s hne hw hs ih =>
    have cover : ∀ c ∈ w, isSpace c = true ∨ isBreak c = true := by
      intro c hc
      rcases hb : isBreak c with - | -
      · have hspace := eq_space_of_isWhite (printable c (List.mem_append_left s hc)) hb (hw c hc)
        exact .inl (by simp [isSpace, hspace])
      · exact .inr rfl
    have uniform := (uniform_of_hasPair cover (hasPair_append spaceBreak).1
      (hasPair_append breakSpace).1).imp_right fun h =>
        And.intro h fun hn => noFeed (List.mem_append_left s hn)
    have ih := ih (fun c hc => printable c (List.mem_append_right w hc))
      (hasPair_append spaceBreak).2 (hasPair_append breakSpace).2
      (fun h => noFeed (List.mem_append_right w h))
    rw [single_white hne hs further uniform, ih]
    rfl

end Single

section Double

theorem hexChar?_hexadecimal {c : Char} {width : Nat} (hw : 0 < width) (hc : c.toNat < 16 ^ width)
    (rest : List Char) : hexChar? width (Text.hexadecimal width c.toNat ++ rest) = some c := by
  have hlen := Text.length_hexadecimal hw hc
  have hvalid : c.toNat.isValidChar := c.valid
  rw [hexChar?, List.take_left' hlen, if_neg (by simp [hlen]), Text.number?_hexadecimal]
  simp [hvalid]

/-- Inside double quotes a character is written as itself, or as an escape that stands for it
whatever follows. -/
inductive Written (c : Char) : List Char → Prop
  | raw (printable : isPrintable c = true) (inLine : isBreak c = false) (noQuote : c ≠ '"')
      (noEscape : c ≠ '\\') : Written c [c]
  | escape {e : Char} {digits : List Char}
      (chars : ∀ d ∈ e :: digits, isPrintable d = true ∧ isBreak d = false)
      (short : digits.length + 2 ≤ 4 * c.utf8Size)
      (reads : ∀ rest, escape? e (digits ++ rest) = some (c, digits.length)) :
      Written c ('\\' :: e :: digits)

theorem visible_digit : ∀ d < 16,
    isPrintable (Nat.digitChar d).toUpper = true ∧ isBreak (Nat.digitChar d).toUpper = false := by
  decide

theorem written_numeric {c e : Char} {width : Nat} (hw : 0 < width) (hc : c.toNat < 16 ^ width)
    (he : hexWidth? e = some width) (inLine : isBreak e = false) (printable : isPrintable e = true)
    (short : width + 2 ≤ 4 * c.utf8Size) :
    Written c ('\\' :: e :: Text.hexadecimal width c.toNat) := by
  have hlen := Text.length_hexadecimal hw hc
  refine .escape (List.forall_mem_cons.2 ⟨⟨printable, inLine⟩, fun d hd => ?_⟩) (by rwa [hlen])
    fun rest => ?_
  · obtain ⟨k, hk, rfl⟩ := Text.exists_of_mem_hexadecimal hd
    exact visible_digit k hk
  · simp only [escape?, he, hexChar?_hexadecimal hw hc, Option.map_some, hlen]

theorem written_letter {c e : Char} (he : hexWidth? e = none) (known : escapes.lookup e = some c)
    (inLine : isBreak e = false) (printable : isPrintable e = true) : Written c ['\\', e] := by
  have hpos := c.utf8Size_pos
  refine .escape (by simp [printable, inLine]) ?_ fun rest => by simp [escape?, he, known]
  rw [List.length_nil]
  omega

theorem two_le_utf8Size {c : Char} (h : ¬c.toNat ≤ 0xFF) : 2 ≤ c.utf8Size := by
  have hpos := c.utf8Size_pos
  by_contra small
  have hone : c.utf8Size = 1 := by omega
  have hval := UInt32.le_iff_toNat_le.1 (Char.utf8Size_eq_one_iff.1 hone)
  exact h (le_trans hval (by decide))

theorem utf8Size_eq_four {c : Char} (h : ¬c.toNat ≤ 0xFFFF) : c.utf8Size = 4 :=
  Char.utf8Size_eq_four_iff.2 (UInt32.lt_iff_toNat_lt.2 (not_le.1 h))

/-- Every character is written in this way. -/
theorem written_escapeChar (c : Char) : Written c (escapeChar c) := by
  unfold escapeChar
  by_cases quote : c = '"'
  · subst c
    exact written_letter rfl rfl rfl rfl
  by_cases backslash : c = '\\'
  · subst c
    exact written_letter rfl rfl rfl rfl
  rw [if_neg (by simpa using quote), if_neg (by simpa using backslash)]
  by_cases hraw : isPrintable c = true ∧ isBreak c = false
  · rw [if_pos (by simp [hraw])]
    exact .raw hraw.1 hraw.2 quote backslash
  rw [if_neg (by simpa using hraw)]
  have hpos := c.utf8Size_pos
  split
  -- the characters with an escape of one letter, before those with a numeric one
  all_goals try exact written_letter rfl rfl rfl rfl
  by_cases two : c.toNat ≤ 0xFF
  · rw [if_pos two]
    exact written_numeric (by decide) (Nat.lt_succ_of_le two) rfl rfl rfl (by omega)
  have hsize := two_le_utf8Size two
  by_cases four : c.toNat ≤ 0xFFFF
  · rw [if_neg two, if_pos four]
    exact written_numeric (by decide) (Nat.lt_succ_of_le four) rfl rfl rfl (by omega)
  · rw [if_neg two, if_neg four]
    have valid : c.toNat < 16 ^ 8 := by
      rcases c.valid with h | ⟨-, h⟩
      · exact h.trans (by decide)
      · exact h.trans (by decide)
    exact written_numeric (by decide) valid rfl rfl rfl (by rw [utf8Size_eq_four four]; decide)

theorem double_end (s : List Char) : double ('"' :: s) = .ok ([], s) := by rw [double]

theorem double_cons {c : Char} {s : List Char} (visible : isWhite c = false) (noQuote : c ≠ '"')
    (noEscape : c ≠ '\\') : double (c :: s) = (double s).map fun (t, r) => (c :: t, r) := by
  rw [double]
  · simp [visible, noEscape]
  · exact fun h => absurd h noQuote
  · exact fun _ _ h => absurd h noEscape

theorem double_run {w s : List Char} (hne : w ≠ []) (hw : ∀ c ∈ w, isWhite c = true)
    (hs : EndsRun isWhite s) (goesOn : endsLine w = false) :
    double (w ++ s) = (double s).map fun (t, r) => (fold w ++ t, r) := by
  obtain ⟨c, w, rfl⟩ := List.exists_cons_of_ne_nil hne
  obtain ⟨hc, hw⟩ := List.forall_mem_cons.1 hw
  rw [List.cons_append, double]
  · simp [hc, takeWhile_run hw hs, dropWhile_run hw hs, goesOn]
  · rintro rfl
    cases hc
  · rintro _ _ rfl
    cases hc

theorem double_escape {c e : Char} {digits s : List Char} (inLine : isBreak e = false)
    (reads : escape? e (digits ++ s) = some (c, digits.length)) :
    double ('\\' :: e :: (digits ++ s)) = (double s).map fun (t, r) => (c :: t, r) := by
  rw [double]
  simp [inLine, reads]

/-- A character other than a space is read back from what is written for it. -/
theorem double_written {c : Char} {code s : List Char} (h : Written c code) (noSpace : c ≠ ' ') :
    double (code ++ s) = (double s).map fun (t, r) => (c :: t, r) := by
  cases h with
  | raw printable inLine noQuote noEscape =>
    exact double_cons (visible_of_printable printable inLine noSpace) noQuote noEscape
  | escape chars _ reads => exact double_escape (chars _ List.mem_cons_self).2 (reads s)

theorem flatMap_escapeChar_spaces (n : Nat) : (spaces n).flatMap escapeChar = spaces n := by
  induction n with
  | zero => rfl
  | succ n ih => rw [spaces_succ, List.flatMap_cons, ih]; rfl

theorem endsRun_written {c : Char} {code : List Char} (h : Written c code) (noSpace : c ≠ ' ')
    (t : List Char) : EndsRun isWhite (code ++ t) := by
  cases h with
  | raw printable inLine =>
    exact endsRun_cons.2 (visible_of_printable printable inLine noSpace)
  | escape => exact endsRun_cons.2 rfl

/-- What is written in double quotes is read up to the closing quote. -/
theorem double_append (s t : List Char) :
    double (s.flatMap escapeChar ++ '"' :: t) = .ok (s, t) := by
  induction s using run_induction isSpace with
  | nil => exact double_end t
  | char c s hc ih =>
    have noSpace : c ≠ ' ' := by simpa [isSpace] using hc
    rw [List.flatMap_cons, List.append_assoc, double_written (written_escapeChar c) noSpace, ih]
    rfl
  | run w s hne hw hs ih =>
    have hspaces : w = spaces w.length := eq_spaces fun c hc => by simpa [isSpace] using hw c hc
    have hend : EndsRun isWhite (s.flatMap escapeChar ++ '"' :: t) := by
      cases s with
      | nil => exact endsRun_cons.2 rfl
      | cons c s =>
        have noSpace : c ≠ ' ' := by simpa [isSpace] using endsRun_cons.1 hs
        rw [List.flatMap_cons, List.append_assoc]
        exact endsRun_written (written_escapeChar c) noSpace _
    rw [hspaces] at hne ⊢
    rw [List.flatMap_append, flatMap_escapeChar_spaces, List.append_assoc,
      double_run hne isWhite_of_mem_spaces hend (endsLine_of_inLine isBreak_of_mem_spaces), ih,
      fold_of_inLine isBreak_of_mem_spaces]
    rfl

end Double

end EntityDesign.Yaml.Flow
