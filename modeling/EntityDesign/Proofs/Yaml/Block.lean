import EntityDesign.Proofs.Yaml.Character
import EntityDesign.Yaml.Block

/-! Literal block scalars are read back as they are written. A text falls into lines, each with the
line breaks behind it; the lines are found again at their indentation, and the chomping mark says
which of the last breaks belong to the text. -/
namespace EntityDesign.Yaml.Block
open Scalar Text

variable {indent m : Nat} {u : List Char}

section Margin

theorem reach_spaces {c : Char} (s : List Char) (noSpace : c ≠ ' ') (inLine : isBreak c = false)
    (column best n : Nat) : reach column best (spaces n ++ c :: s) = max best (column + n) := by
  induction n generalizing column with
  | zero => simp [spaces, reach, noSpace, inLine]
  | succ n ih =>
    rw [spaces_succ, List.cons_append, reach, if_pos rfl, ih]
    omega

/-- The margin ends at the indentation, or at visible text in front of it. -/
def EndsMargin (indent m : Nat) (u : List Char) : Prop :=
  m = indent ∧ EndsRun isBreak u ∨ m < indent ∧ EndsRun isWhite u

theorem margin_spaces {k : Nat} (ends : EndsMargin indent (k + m) u) :
    margin indent k (spaces m ++ u) = .ok ([], k + m, u) := by
  induction m generalizing k with
  | zero =>
    cases u with
    | nil => rfl
    | cons c u =>
      rcases ends with ⟨h, hc⟩ | ⟨h, hc⟩
      · simp_all [spaces, margin, endsRun_cons]
      · have visible := endsRun_cons.1 hc
        simp_all [spaces, margin, endsRun_cons, isWhite, isBlank]
  | succ m ih =>
    have hk : k < indent := by
      rcases ends with ⟨h, -⟩ | ⟨h, -⟩ <;> omega
    rw [spaces_succ, List.cons_append, margin, if_pos ⟨rfl, hk⟩, ih (by rwa [Nat.add_right_comm])]
    congr 3
    omega

/-- Empty lines and the indentation behind them. -/
theorem margin_append {bs : List Char} (hbs : ∀ c ∈ bs, isBreak c = true)
    (ends : EndsMargin indent m u) :
    margin indent 0 (bs ++ (spaces m ++ u)) = .ok (bs, m, u) := by
  induction bs with
  | nil => simpa using margin_spaces (k := 0) (by simpa using ends)
  | cons c bs ih =>
    obtain ⟨hc, hbs⟩ := List.forall_mem_cons.1 hbs
    have noSpace : c ≠ ' ' := by
      rintro rfl
      cases hc
    have noTab : c ≠ '\t' := by
      rintro rfl
      cases hc
    rw [List.cons_append, margin]
    simp [noSpace, noTab, hc, ih hbs, Except.map]

end Margin
section Lines

/-- How a text that begins with no line break falls into lines. If the last line has no break, the
one that is written behind it ends it. -/
inductive Split : List Char → List Line → Prop
  | unended {text : List Char} (hne : text ≠ []) (inLine : ∀ c ∈ text, isBreak c = false) :
    Split text [⟨text, ['\n'], []⟩]
  | last {text bs : List Char} {c : Char} (hne : text ≠ [])
      (inLine : ∀ c ∈ text, isBreak c = false) (breaks : ∀ d ∈ c :: bs, isBreak d = true) :
    Split (text ++ c :: bs) [⟨text, [c], bs⟩]
  | more {text bs s : List Char} {c : Char} {ls : List Line} (hne : text ≠ [])
      (inLine : ∀ c ∈ text, isBreak c = false) (breaks : ∀ d ∈ c :: bs, isBreak d = true)
      (rest : Split s ls) : Split (text ++ (c :: bs ++ s)) (⟨text, [c], bs⟩ :: ls)

theorem exists_split {s : List Char} (hne : s ≠ []) (begins : EndsRun isBreak s) :
    ∃ ls, Split s ls := by
  obtain ⟨text, r, hs, inLine, hr⟩ := exists_run (fun c => !isBreak c) s
  replace inLine : ∀ c ∈ text, isBreak c = false := by simpa using inLine
  have htext : text ≠ [] := by
    rintro rfl
    obtain ⟨c, r', rfl⟩ := List.exists_cons_of_ne_nil hne
    rw [List.nil_append] at hs
    subst hs
    simp [endsRun_cons.1 begins, endsRun_cons] at hr
  cases r with
  | nil => exact ⟨_, by rw [hs, List.append_nil]; exact .unended htext inLine⟩
  | cons c r =>
    obtain ⟨bs, s', rfl, hbs, hs'⟩ := exists_run isBreak r
    have breaks : ∀ d ∈ c :: bs, isBreak d = true :=
      List.forall_mem_cons.2 ⟨by simpa using endsRun_cons.1 hr, hbs⟩
    by_cases h : s' = []
    · exact ⟨_, by rw [hs, h, List.append_nil]; exact .last htext inLine breaks⟩
    · have shorter : s'.length < s.length := by simp [hs]; omega
      obtain ⟨ls, hls⟩ := exists_split h hs'
      exact ⟨_, by rw [hs]; exact .more htext inLine breaks hls⟩
termination_by s.length

theorem Split.begins {s : List Char} {ls : List Line} (h : Split s ls) (r : List Char) :
    EndsRun isBreak (s ++ r) := by
  cases h with
  | unended hne inLine => exact endsRun_append hne inLine r
  | last hne inLine | more hne inLine =>
    rw [List.append_assoc]
    exact endsRun_append hne inLine _

theorem Split.ne_nil {s : List Char} {ls : List Line} (h : Split s ls) : s ≠ [] := by
  cases h <;> simp_all

theorem Split.lines_ne_nil {s : List Char} {ls : List Line} (h : Split s ls) : ls ≠ [] := by
  cases h <;> simp

theorem Split.length_le {s : List Char} {ls : List Line} (h : Split s ls) :
    ls.length ≤ s.length := by
  induction h with
  | unended hne => exact List.length_pos_iff.2 hne
  | last hne => simp; omega
  | more hne _ _ _ ih => simp; omega

theorem literalBody_inLine {text : List Char} (inLine : ∀ c ∈ text, isBreak c = false)
    (s : List Char) :
    literalBody indent false (text ++ s) = text ++ literalBody indent false s := by
  induction text with
  | nil => rfl
  | cons c text ih =>
    obtain ⟨hc, inLine⟩ := List.forall_mem_cons.1 inLine
    simp [literalBody, hc, ih inLine]

theorem literalBody_break {c : Char} (hc : isBreak c = true) (b : Bool) (s : List Char) :
    literalBody indent b (c :: s) = c :: literalBody indent true s := by
  rw [literalBody, if_pos hc]

theorem literalBody_breaks {w : List Char} (hw : ∀ c ∈ w, isBreak c = true) (s : List Char) :
    literalBody indent true (w ++ s) = w ++ literalBody indent true s := by
  induction w with
  | nil => rfl
  | cons c w ih =>
    obtain ⟨hc, hw⟩ := List.forall_mem_cons.1 hw
    rw [List.cons_append, literalBody_break hc, ih hw, List.cons_append]

/-- Behind a line and its breaks the body goes on at the indentation. -/
theorem literalBody_line {text bs : List Char} {c : Char}
    (inLine : ∀ c ∈ text, isBreak c = false) (breaks : ∀ d ∈ c :: bs, isBreak d = true)
    (s : List Char) :
    literalBody indent false (text ++ (c :: bs ++ s)) =
      text ++ (c :: bs ++ literalBody indent true s) := by
  obtain ⟨hc, hbs⟩ := List.forall_mem_cons.1 breaks
  rw [literalBody_inLine inLine, List.cons_append, literalBody_break hc, literalBody_breaks hbs,
    List.cons_append]

theorem literalBody_atBreak {s : List Char} (hne : s ≠ []) (begins : EndsRun isBreak s) :
    literalBody indent true s = spaces indent ++ literalBody indent false s := by
  obtain ⟨c, s, rfl⟩ := List.exists_cons_of_ne_nil hne
  simp [literalBody, endsRun_cons.1 begins]

theorem length_le_literalBody (indent : Nat) (b : Bool) (s : List Char) :
    s.length ≤ (literalBody indent b s).length := by
  induction s generalizing b with
  | nil => simp
  | cons c s ih =>
    rw [literalBody]
    split
    · simpa using ih true
    · have := ih false
      simp only [List.length_append, List.length_cons]
      omega

/-- The body of a literal block ends with a line break. -/
theorem exists_literalBody {s : List Char} (b : Bool) (h : b = false ∨ s ≠ []) :
    ∃ t d, literalBody indent b s = t ++ [d] ∧ isBreak d = true := by
  induction s generalizing b with
  | nil =>
    have hb : b = false := by simpa using h
    exact ⟨[], '\n', by simp [literalBody, hb], rfl⟩
  | cons c s ih =>
    rw [literalBody]
    by_cases hc : isBreak c = true
    · by_cases hs : s = []
      · exact ⟨[], c, by simp [hc, hs, literalBody], hc⟩
      · obtain ⟨t, d, ht, hd⟩ := ih true (.inr hs)
        exact ⟨c :: t, d, by simp [hc, ht], hd⟩
    · obtain ⟨t, d, ht, hd⟩ := ih false (.inl rfl)
      rw [if_neg hc, ht, ← List.cons_append, ← List.append_assoc]
      exact ⟨_, d, rfl, hd⟩

theorem endsRun_literalBody {s : List Char} (hne : s ≠ []) (begins : EndsRun isBreak s)
    (r : List Char) : EndsRun isBreak (literalBody indent false s ++ r) := by
  obtain ⟨c, s, rfl⟩ := List.exists_cons_of_ne_nil hne
  simp [literalBody, endsRun_cons, endsRun_cons.1 begins]

/-- One line is taken off a text whose further lines are read already. -/
theorem lines_cons {n m : Nat} {text bs s : List Char} {c : Char} (hne : text ≠ [])
    (inLine : ∀ c ∈ text, isBreak c = false) (breaks : ∀ d ∈ c :: bs, isBreak d = true)
    (ends : EndsMargin indent m s) :
    lines indent (n + 1) indent (text ++ (c :: bs ++ (spaces m ++ s))) =
      (lines indent n m s).map fun (ls, r) => (⟨text, [c], bs⟩ :: ls, r) := by
  obtain ⟨hc, hbs⟩ := List.forall_mem_cons.1 breaks
  have hend : EndsRun (fun c => !isBreak c) (c :: bs ++ (spaces m ++ s)) :=
    endsRun_cons.2 (by simp [hc])
  have htext : ∀ c ∈ text, (!isBreak c) = true := by simpa using inLine
  rw [lines, if_neg (by simp [hne])]
  simp only [takeWhile_run htext hend, dropWhile_run htext hend]
  simp [margin_append hbs ends]

theorem lines_stop {n : Nat} (h : m < indent) : lines indent n m u = .ok ([], u) := by
  cases n with
  | zero => rfl
  | succ n => rw [lines, if_pos (.inl h.ne)]

/-- The lines of a literal block are the lines of its text. -/
theorem lines_literalBody {s : List Char} {ls : List Line} (h : Split s ls) (hm : m < indent)
    (visible : EndsRun isWhite u) (n : Nat) :
    lines indent (ls.length + n) indent (literalBody indent false s ++ (spaces m ++ u)) =
      .ok (ls, u) := by
  have hend : EndsMargin indent m u := .inr ⟨hm, visible⟩
  induction h with
  | unended hne inLine =>
    have hbody : literalBody indent false (_ ++ []) = _ := literalBody_inLine inLine []
    have breaks : ∀ d ∈ ['\n'], isBreak d = true := by simp [isBreak]
    have hline := lines_cons (n := n) hne inLine breaks hend
    rw [List.append_nil, literalBody, if_neg Bool.false_ne_true] at hbody
    rw [lines_stop hm] at hline
    rw [hbody, List.length_singleton, Nat.add_comm, List.append_assoc]
    exact hline
  | last hne inLine breaks =>
    have hbody : literalBody indent false _ = _ := literalBody_line inLine breaks []
    have hline := lines_cons (n := n) hne inLine breaks hend
    rw [List.append_nil, literalBody, if_pos rfl, List.append_nil] at hbody
    rw [lines_stop hm] at hline
    rw [hbody, List.length_singleton, Nat.add_comm, List.append_assoc]
    exact hline
  | @more text bs s c ls hne inLine breaks rest ih =>
    have begins : EndsRun isBreak s := by simpa using rest.begins []
    have hbody : literalBody indent true s = _ := literalBody_atBreak rest.ne_nil begins
    have ends : EndsMargin indent indent (literalBody indent false s ++ (spaces m ++ u)) :=
      .inl ⟨rfl, endsRun_literalBody rest.ne_nil begins _⟩
    have hline := lines_cons (n := ls.length + n) hne inLine breaks ends
    rw [literalBody_line inLine breaks, hbody, List.length_cons, Nat.add_right_comm]
    simp only [List.append_assoc] at hline ⊢
    rw [hline, ih]
    rfl

end Lines

section Chomping

/-- The mark of a chomping in the header. -/
def Chomp.mark : Chomp → List Char
  | .strip => ['-']
  | .clip => []
  | .keep => ['+']

theorem chompHint_inLine {text : List Char} (hne : text ≠ [])
    (inLine : ∀ c ∈ text, isBreak c = false) (before : List Char) :
    chompHint (before ++ text) = Chomp.strip.mark := by
  obtain ⟨text, c, rfl⟩ := List.eq_nil_or_concat text |>.resolve_left hne
  have hc : isBreak c = false := inLine c (by simp)
  rw [chompHint]
  split <;> simp_all [Chomp.mark]

theorem chompHint_break {text : List Char} {c : Char} (hne : text ≠ [])
    (inLine : ∀ c ∈ text, isBreak c = false) (hc : isBreak c = true) (before : List Char) :
    chompHint (before ++ (text ++ [c])) = Chomp.clip.mark := by
  obtain ⟨text, d, rfl⟩ := List.eq_nil_or_concat text |>.resolve_left hne
  have hd : isBreak d = false := inLine d (by simp)
  simp [chompHint, Chomp.mark, hc, hd]

theorem chompHint_breaks {w : List Char} (breaks : ∀ c ∈ w, isBreak c = true)
    (hlen : 2 ≤ w.length) (before : List Char) :
    chompHint (before ++ w) = Chomp.keep.mark := by
  rcases hw : w.reverse with - | ⟨c, - | ⟨d, r⟩⟩
  · simp_all
  · have : w.length = 1 := by rw [← List.length_reverse, hw]; rfl
    omega
  · have hmem : ∀ b ∈ c :: d :: r, isBreak b = true := by simpa [← hw] using breaks
    simp_all [chompHint, Chomp.mark]

/-- A text with no line. -/
theorem chompHint_empty {w : List Char} (hne : w ≠ []) (breaks : ∀ c ∈ w, isBreak c = true) :
    chompHint w = Chomp.keep.mark := by
  match w with
  | [c] => simp_all [chompHint, Chomp.mark]
  | c :: d :: w => exact chompHint_breaks breaks (by simp) []

theorem content_cons (k : Chomp) (empties : List Char) (l : Line) {ls : List Line} (hne : ls ≠ []) :
    content false k empties (l :: ls) =
      empties ++ l.text ++ content false k (l.ending ++ l.empties) ls := by
  obtain ⟨l', ls, rfl⟩ := List.exists_cons_of_ne_nil hne
  simp [content, join, List.getLast?_cons]

/-- The mark that is written for a text keeps of its last line breaks what the text has. -/
theorem content_split {s : List Char} {ls : List Line} (h : Split s ls) :
    ∃ k : Chomp, (∀ before, chompHint (before ++ s) = k.mark) ∧
      ∀ empties, content false k empties ls = empties ++ s := by
  induction h with
  | unended hne inLine =>
    exact ⟨.strip, chompHint_inLine hne inLine, fun empties => by simp [content, join, tail]⟩
  | @last text bs c hne inLine breaks =>
    cases bs with
    | nil =>
      exact ⟨.clip, chompHint_break hne inLine (breaks c (by simp)),
        fun empties => by simp [content, join, tail]⟩
    | cons d bs =>
      refine ⟨.keep, fun before => ?_, fun empties => by simp [content, join, tail]⟩
      rw [← List.append_assoc]
      exact chompHint_breaks breaks (by simp) _
  | more _ _ _ rest ih =>
    obtain ⟨k, hint, hcontent⟩ := ih
    refine ⟨k, fun before => ?_, fun empties => ?_⟩
    · rw [← List.append_assoc, ← List.append_assoc]
      exact hint _
    · rw [content_cons _ _ _ rest.lines_ne_nil, hcontent]
      simp

end Chomping

section Read

theorem header_mark (k : Chomp) (t : List Char) :
    header (k.mark ++ '\n' :: t) = .ok (⟨0, k⟩, '\n' :: t) := by
  cases k <;> cases t <;> rfl

theorem header_increment (k : Chomp) (t : List Char) :
    header ('2' :: k.mark ++ '\n' :: t) = .ok (⟨2, k⟩, '\n' :: t) := by
  cases k <;> cases t <;> rfl

theorem endOfHeader_lineFeed (t : List Char) : endOfHeader ('\n' :: t) = .ok t := rfl

/-- The body of a literal block gives back the text under the chomping that is announced. -/
theorem exists_content {s : List Char} (hne : s ≠ []) (hm : m < indent)
    (visible : EndsRun isWhite u) : ∃ (k : Chomp) (empties : List Char) (column : Nat)
      (r : List Char) (ls : List Line), chompHint s = k.mark ∧
      margin indent 0 (literalBody indent true s ++ (spaces m ++ u)) = .ok (empties, column, r) ∧
      lines indent r.length column r = .ok (ls, u) ∧ content false k empties ls = s := by
  obtain ⟨w, r, rfl, hw, hr⟩ := exists_run isBreak s
  rw [literalBody_breaks hw, List.append_assoc]
  by_cases h : r = []
  · subst h
    rw [List.append_nil] at hne ⊢
    exact ⟨.keep, w, m, u, [], chompHint_empty hne hw, margin_append hw (.inr ⟨hm, visible⟩),
      lines_stop hm, by simp [content, tail]⟩
  · obtain ⟨ls, hls⟩ := exists_split h hr
    obtain ⟨k, hint, hcontent⟩ := content_split hls
    rw [literalBody_atBreak h hr, List.append_assoc]
    refine ⟨k, w, indent, _, ls, hint w,
      margin_append hw (.inl ⟨rfl, endsRun_literalBody h hr _⟩), ?_, hcontent w⟩
    have hlen : ls.length ≤ (literalBody indent false r ++ (spaces m ++ u)).length := by
      have hbody := length_le_literalBody indent false r
      have hlines := hls.length_le
      rw [List.length_append]
      omega
    obtain ⟨n, hn⟩ := Nat.exists_eq_add_of_le hlen
    rw [hn]
    exact lines_literalBody hls hm visible n

/-- The indentation that is read is the one that is written, announced by a digit or found. -/
theorem read_header {outer : Nat} {s t : List Char} (hne : s ≠ []) (k : Chomp) :
    Block.read false outer (indentHint s ++ k.mark ++
        '\n' :: (literalBody (outer - 1 + 2) true s ++ t)) = do
      let (empties, column, r) ←
        margin (outer - 1 + 2) 0 (literalBody (outer - 1 + 2) true s ++ t)
      let (ls, r) ← lines (outer - 1 + 2) r.length column r
      return (content false k empties ls, r) := by
  obtain ⟨c, s, rfl⟩ := List.exists_cons_of_ne_nil hne
  by_cases blank : c = ' ' ∨ isBreak c = true
  · have hhint : indentHint (c :: s) = ['2'] := by
      simp only [indentHint]
      rw [if_pos (by simpa using blank)]
    simp only [hhint, List.singleton_append, Block.read, header_increment, endOfHeader_lineFeed,
      bind, Except.bind, Nat.reduceEqDiff, if_false]
  · obtain ⟨noSpace, inLine⟩ := not_or.1 blank
    rw [Bool.not_eq_true] at inLine
    have hhint : indentHint (c :: s) = [] := by
      simp only [indentHint]
      rw [if_neg (by simpa using blank)]
    have hreach : max (max (reach 0 0 (literalBody (outer - 1 + 2) true (c :: s) ++ t)) outer) 1 =
        outer - 1 + 2 := by
      have hbody : literalBody (outer - 1 + 2) true (c :: s) =
          spaces (outer - 1 + 2) ++ c :: literalBody (outer - 1 + 2) false s := by
        simp [literalBody, inLine]
      rw [hbody, List.append_assoc, List.cons_append, reach_spaces _ noSpace inLine]
      omega
    simp only [hhint, List.nil_append, Block.read, header_mark, endOfHeader_lineFeed, if_true,
      hreach, bind, Except.bind]

/-- A literal block is read up to the visible text that stands further out. -/
theorem read_append {outer : Nat} {s : List Char} (hne : s ≠ []) (hm : m < outer - 1 + 2)
    (visible : EndsRun isWhite u) :
    Block.read false outer (indentHint s ++ chompHint s ++
      '\n' :: (literalBody (outer - 1 + 2) true s ++ (spaces m ++ u))) = .ok (s, u) := by
  obtain ⟨k, empties, column, r, ls, hint, hmargin, hlines, hcontent⟩ :=
    exists_content hne hm visible
  rw [hint, read_header hne k]
  simp only [hmargin, hlines, hcontent, bind, Except.bind]
  rfl

end Read
end EntityDesign.Yaml.Block
