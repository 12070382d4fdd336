import EntityDesign.Proofs.Yaml.Block
import EntityDesign.Proofs.Yaml.Cursor
import EntityDesign.Proofs.Yaml.Scalar
import EntityDesign.Yaml.Node
import EntityDesign.Yaml.Printer

/-! Values that stand on a line are read where they are written: scalars in any style and empty
collections. What a reader does first depends on the beginning of the text, so that comes first. -/
namespace EntityDesign.Yaml
open Scalar Cursor

/-- What a scalar on one line is followed by: the colon behind a key, or the end of the line. -/
def Stops (e : List Char) : Prop := e.head? = some ':' ∨ e.head? = some '\n'

/-- Text that begins a document, or a line of one. -/
structure Starts (t : List Char) : Prop where
  visible : Visible t
  nonempty : t ≠ []
  noMarker : isMarker t = false

/-- Text that begins with a plain or quoted scalar or a collection in flow style. -/
structure Opens (t : List Char) : Prop extends Starts t where
  noDash : Node.isMark '-' t = false
  noQuestion : Node.isMark '?' t = false
  noLiteral : t.head? ≠ some '|'
  noFolded : t.head? ≠ some '>'

theorem Starts.atEnd {t : List Char} (h : Starts t) (column : Nat) (fresh : Bool) :
    Cursor.atEnd ⟨column, fresh, t⟩ = false := by
  simp [Cursor.atEnd, h.nonempty, h.noMarker]

theorem starts_cons {c : Char} {s : List Char} (visible : isWhite c = false)
    (mark : c ∉ ['#', '-', '.']) : Starts (c :: s) := by
  simp only [List.mem_cons, List.not_mem_nil, or_false, not_or] at mark
  refine ⟨visible_cons.2 ⟨visible, mark.1⟩, by simp, ?_⟩
  rw [isMarker]
  · exact fun _ h => mark.2.1 (List.cons.inj h).1
  · exact fun _ h => mark.2.2 (List.cons.inj h).1

theorem opens_cons {c : Char} {s : List Char} (visible : isWhite c = false)
    (mark : c ∉ ['#', '-', '.', '?', '|', '>']) : Opens (c :: s) := by
  simp only [List.mem_cons, List.not_mem_nil, or_false, not_or] at mark
  obtain ⟨comment, dash, dot, question, literal, folded⟩ := mark
  exact ⟨starts_cons visible (by simp [comment, dash, dot]), by simp [Node.isMark, Ne.symm dash],
    by simp [Node.isMark, Ne.symm question], by simpa using literal, by simpa using folded⟩

theorem exists_of_isMarker {t : List Char} (h : isMarker t = true) :
    ∃ d cs, (d = '-' ∨ d = '.') ∧ t = d :: d :: d :: cs := by
  unfold isMarker at h
  split at h
  · exact ⟨_, _, .inl rfl, rfl⟩
  · exact ⟨_, _, .inr rfl, rfl⟩
  · cases h

theorem isMarker_plain {s e : List Char} (h : allowsPlain s = true) (stops : Stops e) :
    isMarker (s ++ e) = false := by
  obtain ⟨-, hne, -, -, indicators⟩ := allowsPlain_spec h
  simp only [hasIndicators, Bool.or_eq_false_iff] at indicators
  by_contra marker
  obtain ⟨d, cs, hd, ht⟩ := exists_of_isMarker (Bool.not_eq_false _ ▸ marker)
  have hstop : e.head? ≠ some d := by
    rcases stops with h | h <;> rcases hd with rfl | rfl <;> rw [h] <;> decide
  rcases s with - | ⟨a, - | ⟨b, - | ⟨c, s⟩⟩⟩
  · exact hne rfl
  · simp_all
  · simp_all
  · rcases hd with rfl | rfl <;> simp_all

theorem opens_plain {s e : List Char} (h : allowsPlain s = true) (stops : Stops e) :
    Opens (s ++ e) := by
  obtain ⟨c, s, rfl⟩ := List.exists_cons_of_ne_nil (allowsPlain_spec h).2.1
  obtain ⟨visible, indicator, marks, -⟩ := allowsPlain_head h
  have noMark {d : Char} (hd : d = '?' ∨ d = ':' ∨ d = '-') :
      Node.isMark d (c :: s ++ e) = false := by
    by_cases same : d = c
    · simp [Node.isMark, Flow.blankNext_append (marks (same ▸ hd)) e]
    · simp [Node.isMark, same]
  have other {d : Char} (hd : isIndicator d = true) : c ≠ d := by
    rintro rfl
    simp [indicator] at hd
  exact ⟨⟨visible_cons.2 ⟨visible, other rfl⟩, by simp, isMarker_plain h stops⟩, noMark (by simp),
    noMark (by simp), by simpa using other rfl, by simpa using other rfl⟩

theorem startsPlain_append {s : List Char} (h : allowsPlain s = true) (e : List Char) :
    Flow.startsPlain false (s ++ e) = true := by
  obtain ⟨c, s, rfl⟩ := List.exists_cons_of_ne_nil (allowsPlain_spec h).2.1
  obtain ⟨visible, indicator, marks, -⟩ := allowsPlain_head h
  by_cases hc : c = '?' ∨ c = ':' ∨ c = '-'
  · have := Flow.blankNext_append (marks hc) e
    rcases hc with rfl | rfl | rfl <;> simp [Flow.startsPlain, this]
  · simp only [isIndicator] at indicator
    simp_all [Flow.startsPlain]

/-- A scalar on one line begins with no mark of block style and with no mark between documents. -/
theorem opens_inline {s t e : List Char} {p : Bool} (h : Inline s p t) (stops : Stops e) :
    Opens (t ++ e) := by
  cases h with
  | plain h => exact opens_plain h stops
  | single | double => exact opens_cons rfl (by decide)

namespace Node

/-- A scalar on one line is read up to its end. Behind a plain scalar the white space in front of
the next text is left behind, too. -/
theorem flowNode_inline {s t e r : List Char} {p : Bool} {c : Cursor} {outer n : Nat}
    (h : Inline s p t) (hc : c.rest = t ++ e) (stops : Stops e)
    (hplain : p = true → Flow.plain false outer e = .ok ([], r)) (hquoted : p = false → r = e) :
    flowNode false outer (n + 1) c = .ok (.scalar p (String.ofList s), c.moveTo r) := by
  have hend : c.atEnd = false :=
    Starts.atEnd (hc ▸ (opens_inline h stops).toStarts) c.column c.fresh
  rw [flowNode, if_neg (by simp [hend]), hc]
  cases h with
  | plain h =>
    obtain ⟨chars, hne, -, last, -⟩ := allowsPlain_spec h
    have starts := startsPlain_append h e
    obtain ⟨d, s, rfl⟩ := List.exists_cons_of_ne_nil hne
    obtain ⟨-, indicator, -, whole⟩ := allowsPlain_head h
    have hread := Flow.plain_append (hplain rfl) chars whole last
    have other {c : Char} (hd : isIndicator c = true) : d ≠ c := by
      rintro rfl
      simp [indicator] at hd
    split
    · exact absurd (List.cons.inj ‹_›).1 (other rfl)
    · exact absurd (List.cons.inj ‹_›).1 (other rfl)
    · exact absurd (List.cons.inj ‹_›).1 (other rfl)
    · exact absurd (List.cons.inj ‹_›).1 (other rfl)
    · rw [if_pos starts, hread]
      rfl
  | single indent h noFeed further =>
    obtain ⟨printable, spaceBreak, breakSpace⟩ := allowsSingle_spec h
    have noQuote : e.head? ≠ some '\'' := by
      rintro he
      rcases stops with h | h <;> rw [he] at h <;> cases h
    have hread := Flow.single_append printable spaceBreak breakSpace noFeed noQuote further
    simp only [List.cons_append, List.append_assoc, List.nil_append]
    simp [hread, Except.map, quoted, hquoted rfl]
  | double =>
    have hread := Flow.double_append s e
    simp only [List.cons_append, List.append_assoc, List.nil_append]
    simp [hread, Except.map, quoted, hquoted rfl]

/-- Where a scalar or a collection in flow style begins, it is the value, or the first key of a
mapping if a colon follows. -/
theorem blockNode_opens {t : List Char} {c : Cursor} {k n outer : Nat} {inEntry fresh : Bool}
    (hc : c.skipGap false = ⟨k, fresh, t⟩) (opens : Opens t) (hk : outer ≤ k) :
    blockNode outer inEntry (n + 1) c = do
      let (node, d) ← flowNode false outer (n + 1) ⟨k, fresh, t⟩
      match if fresh then d.afterColon? false ⟨k, fresh, t⟩ else none with
      | some d =>
        let (value, d) ← blockNode (k + 1) true n d
        (entries k n d).map fun (l, d) => (.mapping ((node, value) :: l), d)
      | none => return (node, d) := by
  have hend := opens.atEnd k fresh
  rw [blockNode]
  simp only [hc, hend, Nat.not_lt.2 hk, opens.noDash, opens.noQuestion, Bool.false_eq_true,
    if_false]
  split
  · exact absurd rfl opens.noLiteral
  · exact absurd rfl opens.noFolded
  · rfl

/-- With enough fuel a value is read at `c`, up to the text `rest` on lines of its own. -/
def Reads (outer : Nat) (inEntry : Bool) (c : Cursor) (node : Node) (rest : List Char) : Prop :=
  ∀ n, 2 * c.rest.length + 2 ≤ n →
    ∃ d : Cursor, blockNode outer inEntry n c = .ok (node, d) ∧ d.Faces rest

section Leaves
variable {outer m k : Nat} {inEntry fresh p : Bool} {c : Cursor} {s t u : List Char}

/-- A value in flow style that ends with its line. -/
theorem reads_flow {node : Node} {d : Cursor} (hc : c.skipGap false = ⟨k, fresh, t⟩)
    (opens : Opens t) (hk : outer ≤ k) (hd : d.rest = '\n' :: s)
    (hread : ∀ n, flowNode false outer (n + 2) ⟨k, fresh, t⟩ = .ok (node, d)) :
    Reads outer inEntry c node s := by
  intro n hn
  obtain ⟨n, rfl⟩ : ∃ i, n = i + 2 := ⟨n - 2, by omega⟩
  refine ⟨d, ?_, faces_lineFeed hd⟩
  rw [blockNode_opens hc opens hk, hread]
  simp only [bind, Except.bind, afterColon?_lineEnd hd, ite_self]
  rfl

variable (inEntry) in
/-- A plain or quoted scalar. The reader of a plain scalar stops at the next text only; that is no
colon that makes the scalar a key, as a line break lies between. -/
theorem reads_inline (h : Inline s p t)
    (hc : c.skipGap false = ⟨k, fresh, t ++ '\n' :: (spaces m ++ u)⟩) (hk : outer ≤ k)
    (visible : Visible u) (further : m < outer ∨ u = []) :
    Reads outer inEntry c (.scalar p (String.ofList s)) (spaces m ++ u) := by
  have opens : Opens (t ++ '\n' :: (spaces m ++ u)) := opens_inline h (.inr rfl)
  cases p with
  | false =>
    exact reads_flow hc opens hk rfl fun n =>
      flowNode_inline h rfl (.inr rfl) (by simp) fun _ => rfl
  | true =>
    intro n hn
    obtain ⟨n, rfl⟩ : ∃ i, n = i + 1 := ⟨n - 1, by omega⟩
    have hread := flowNode_inline (n := n) (c := ⟨k, fresh, t ++ '\n' :: (spaces m ++ u)⟩) h rfl
      (.inr rfl) (fun _ => Flow.plain_lineEnd visible.1 further) (by simp)
    rw [moveTo_break rfl rfl] at hread
    have noKey : afterColon? false ⟨m, true, u⟩ ⟨k, fresh, t ++ '\n' :: (spaces m ++ u)⟩ = none :=
      afterColon?_further (t := t ++ '\n' :: spaces m) (by simp) visible.1 (by simp [isBreak])
    refine ⟨_, ?_, faces_mk visible m⟩
    rw [blockNode_opens hc opens hk, hread]
    simp only [bind, Except.bind, noKey, ite_self]
    rfl

variable (inEntry) in
theorem reads_literal (hne : s ≠ []) (hc : c.skipGap false = ⟨k, fresh, '|' :: (indentHint s ++
      chompHint s ++ '\n' :: (literalBody (outer - 1 + 2) true s ++ (spaces m ++ u)))⟩)
    (hk : outer ≤ k) (visible : Visible u) (hm : m < outer - 1 + 2) :
    Reads outer inEntry c (.scalar false (String.ofList s)) (spaces m ++ u) := by
  intro n hn
  obtain ⟨n, rfl⟩ : ∃ i, n = i + 1 := ⟨n - 1, by omega⟩
  obtain ⟨t, b, hbody, hb⟩ : ∃ t b, literalBody (outer - 1 + 2) true s = t ++ [b] ∧ _ :=
    Block.exists_literalBody true (.inr hne)
  have hread : Block.read false outer _ = _ := Block.read_append hne hm visible.1
  have hmove : moveTo ⟨k, fresh, '|' :: (indentHint s ++ chompHint s ++
      '\n' :: (literalBody (outer - 1 + 2) true s ++ (spaces m ++ u)))⟩ u = ⟨m, true, u⟩ :=
    moveTo_break (t := '|' :: (indentHint s ++ chompHint s ++ '\n' :: t)) hb
      (by rw [hbody]; simp)
  refine ⟨⟨m, true, u⟩, ?_, faces_mk visible m⟩
  generalize indentHint s ++ chompHint s ++
    '\n' :: (literalBody (outer - 1 + 2) true s ++ (spaces m ++ u)) = block at hc hread hmove
  have opens : atEnd ⟨k, fresh, '|' :: block⟩ = false ∧ isMark '-' ('|' :: block) = false ∧
      isMark '?' ('|' :: block) = false := by
    simp [Cursor.atEnd, isMarker, isMark]
  rw [blockNode]
  simp only [hc, opens, Nat.not_lt.2 hk, hread, Except.map, ofBlock, hmove, quoted,
    Bool.false_eq_true, if_false]

/-- The scalar that is read where a text is written. -/
def ofString (s : String) : Node := .scalar (style s == .plain) s

theorem starts_write {indent : Nat} (further : 0 < indent) (s : String) (r : List Char) :
    Starts (write indent s ++ r) := by
  rcases write_eq further s with ⟨t, ht, hwrite⟩ | ⟨-, -, -, hwrite⟩
  · rw [hwrite, List.append_assoc]
    exact (opens_inline ht (.inr rfl)).toStarts
  · rw [hwrite]
    exact starts_cons rfl (by decide)

/-- A text is read as it is written, in whatever style. -/
theorem reads_text {s : String}
    (hc : c.skipGap false = ⟨k, fresh, write (outer - 1 + 2) s ++ (spaces m ++ u)⟩) (hk : outer ≤ k)
    (visible : Visible u) (further : m < outer ∨ u = []) (hm : m < outer - 1 + 2) :
    Reads outer inEntry c (ofString s) (spaces m ++ u) := by
  have same : String.ofList s.toList = s := String.ofList_toList
  rcases write_eq (Nat.succ_pos (outer - 1 + 1)) s with ⟨t, ht, hwrite⟩ | ⟨hstyle, hne, -, hwrite⟩
  · rw [hwrite, List.append_assoc] at hc
    have hread := reads_inline inEntry ht hc hk visible further
    rwa [same] at hread
  · have block : c.skipGap false = ⟨k, fresh, '|' :: (indentHint s.toList ++ chompHint s.toList ++
        '\n' :: (literalBody (outer - 1 + 2) true s.toList ++ (spaces m ++ u)))⟩ := by
      rw [hc, hwrite]
      simp
    have hread := reads_literal inEntry hne block hk visible hm
    rw [same] at hread
    rw [ofString, hstyle]
    exact hread

/-- The two brackets that a collection with no entries is written as. -/
inductive Brackets : Char → Char → Node → Prop
  | list : Brackets '[' ']' (.list [])
  | record : Brackets '{' '}' (.mapping [])

theorem reads_brackets {first last : Char} {node : Node} (h : Brackets first last node)
    (hc : c.skipGap false = ⟨k, fresh, first :: last :: '\n' :: s⟩) (hk : outer ≤ k) :
    Reads outer inEntry c node s := by
  let start : Cursor := ⟨k, fresh, first :: last :: '\n' :: s⟩
  have hclose :
      (start.moveTo (last :: '\n' :: s)).skipGap true = start.moveTo (last :: '\n' :: s) :=
    skipGap_visible (visible_cons.2 (by cases h <;> exact ⟨rfl, by decide⟩))
  have opens : Opens (first :: last :: '\n' :: s) := by
    cases h <;> exact opens_cons rfl (by decide)
  refine reads_flow (d := (start.moveTo (last :: '\n' :: s)).moveTo ('\n' :: s)) hc opens hk rfl
    fun n => ?_
  rw [flowNode, if_neg (by cases h <;> simp [Cursor.atEnd, isMarker])]
  cases h <;> simp only [flowItems, flowFields, hclose, start] <;> rfl

theorem inline_flag (b : Bool) : Inline (toString b).toList true (toString b).toList := by
  cases b <;> exact .plain (by decide)

theorem reads_flag {b : Bool} (hc : c.skipGap false = ⟨k, fresh, flagText b ++ (spaces m ++ u)⟩)
    (hk : outer ≤ k) (visible : Visible u) (further : m < outer ∨ u = []) :
    Reads outer inEntry c (.scalar true (toString b)) (spaces m ++ u) := by
  rw [flagText, List.append_assoc] at hc
  have hread := reads_inline inEntry (inline_flag b) hc hk visible further
  rwa [String.ofList_toList] at hread

end Leaves

end Node
end EntityDesign.Yaml
