import EntityDesign.Json
import EntityDesign.Proofs.Text.Run
import EntityDesign.Text.Digits
import EntityDesign.Text.Encoding

/-! The tokens of a JSON text. White space between them means nothing. A string reaches from quote
to quote, and a run of other characters is a number or a word. What is printed is read as the tokens
of the value, whatever its strings are made of. -/
namespace EntityDesign.Json
open Text

inductive Token where
  | openArray | closeArray | openObject | closeObject | comma | colon
  | string (s : String)
  /-- A number as it is written. -/
  | number (written : String)
  | boolean (b : Bool)
  | null
  deriving DecidableEq, Repr

namespace Token

def isSpace (c : Char) : Bool := c == ' ' || c == '\t' || c == '\n' || c == '\r'

def mark? : Char → Option Token
  | '[' => some openArray
  | ']' => some closeArray
  | '{' => some openObject
  | '}' => some closeObject
  | ',' => some comma
  | ':' => some colon
  | _ => none

/-- Characters of numbers and words. -/
def isBare (c : Char) : Bool := !isSpace c && (mark? c).isNone && c != '"'

section Strings

/-- The number that the next four digits make. -/
def unit? (s : List Char) : Option Nat :=
  let digits := s.take 4
  if digits.length < 4 then none else number? 16 digits

/-- The characters with an escape of one letter. -/
def escapes : List (Char × Char) := [
  ('"', '"'), ('\\', '\\'), ('/', '/'), ('b', '\x08'), ('f', '\x0C'), ('n', '\n'), ('r', '\r'),
  ('t', '\t')]

/-- What an escape stands for, given the text behind the backslash, and how many further characters
belong to it. A character that takes two units is escaped by two numbers. -/
def escape? (c : Char) (cs : List Char) : Option (Char × Nat) :=
  if c = 'u' then
    (unit? cs).bind fun u =>
      match ofUnits? [u], cs.drop 4 with
      | some [d], _ => some (d, 4)
      | _, '\\' :: 'u' :: ds =>
        match (unit? ds).bind fun v => ofUnits? [u, v] with
        | some [d] => some (d, 10)
        | _ => none
      | _, _ => none
  else (escapes.lookup c).map (·, 0)

/-- The text up to a quote and what follows. Control characters stand in a text only as escapes. -/
def text? : List Char → Option (List Char × List Char)
  | [] => none
  | '"' :: cs => some ([], cs)
  | '\\' :: c :: cs =>
    match escape? c cs with
    | some (d, n) => (text? (cs.drop n)).map fun (s, r) => (d :: s, r)
    | none => none
  | c :: cs =>
    if c = '\\' ∨ c.toNat < 0x20 then none else (text? cs).map fun (s, r) => (c :: s, r)
termination_by s => s.length
decreasing_by
  all_goals
    simp only [List.length_cons, List.length_drop]
    omega

end Strings

section Numbers

/-- What follows one digit or more. -/
def digits? (s : List Char) : Option (List Char) :=
  if (s.takeWhile Char.isDigit).isEmpty then none else some (s.dropWhile Char.isDigit)

/-- What follows an integer without a sign. Nothing stands behind a zero in front. -/
def integer? : List Char → Option (List Char)
  | '0' :: cs => some cs
  | cs => digits? cs

/-- What follows a fraction, which may be missing. -/
def fraction? : List Char → Option (List Char)
  | '.' :: cs => digits? cs
  | cs => some cs

/-- What follows a power of ten, which may be missing. -/
def exponent? : List Char → Option (List Char)
  | [] => some []
  | e :: cs =>
    if e = 'e' ∨ e = 'E' then
      match cs with
      | '+' :: ds => digits? ds
      | '-' :: ds => digits? ds
      | ds => digits? ds
    else some (e :: cs)

def isNumber (s : List Char) : Bool :=
  let unsigned := match s with
    | '-' :: cs => cs
    | cs => cs
  (((integer? unsigned).bind fraction?).bind exponent?) == some []

end Numbers

/-- The number or word that is written so. -/
def word? (s : List Char) : Option Token :=
  if s = ['t', 'r', 'u', 'e'] then some (boolean true)
  else if s = ['f', 'a', 'l', 's', 'e'] then some (boolean false)
  else if s = ['n', 'u', 'l', 'l'] then some null
  else if isNumber s then some (number (String.ofList s))
  else none

/-- The first token of a text that does not begin with white space. -/
def next? : List Char → Option (Token × List Char)
  | [] => none
  | c :: cs =>
    match mark? c with
    | some t => some (t, cs)
    | none =>
      if c = '"' then (text? cs).map fun (s, r) => (string (String.ofList s), r)
      else (word? ((c :: cs).takeWhile isBare)).map (·, (c :: cs).dropWhile isBare)

/-- The tokens of a text. -/
def all : List Char → Option (List Token)
  | [] => some []
  | c :: cs =>
    if isSpace c then all cs
    else
      match next? (c :: cs) with
      | none => none
      | some (t, rest) =>
        if _h : rest.length < (c :: cs).length then (all rest).map (t :: ·) else none
termination_by s => s.length
decreasing_by
  · exact Nat.lt_succ_self cs.length
  · assumption

section Strings
variable {c d : Char} {cs r : List Char} {n : Nat}

theorem text?_escape (h : escape? c cs = some (d, n)) :
    text? ('\\' :: c :: cs) = (text? (cs.drop n)).map fun (s, r) => (d :: s, r) := by
  rw [text?, h]

theorem text?_letter (h : escapes.lookup c = some d) (letter : c ≠ 'u') :
    text? ('\\' :: c :: r) = (text? r).map fun (s, r) => (d :: s, r) :=
  text?_escape (n := 0) (by rw [escape?, if_neg letter, h]; rfl)

theorem text?_cons (quote : c ≠ '"') (slash : c ≠ '\\') (visible : ¬c.toNat < 0x20) :
    text? (c :: cs) = (text? cs).map fun (s, r) => (c :: s, r) := by
  rw [text?]
  · rw [if_neg (not_or.2 ⟨slash, visible⟩)]
  · exact quote
  · exact fun _ _ h => absurd h slash

/-- The four digits of a control character. -/
theorem number?_control :
    ∀ n < 0x20, number? 16 ['0', '0', hexDigit (n / 16), hexDigit (n % 16)] = some n := by decide

theorem escape?_control (h : c.toNat < 0x20) :
    escape? 'u' ('0' :: '0' :: hexDigit (c.toNat / 16) :: hexDigit (c.toNat % 16) :: r) =
      some (c, 4) := by
  have hunit : unit? ('0' :: '0' :: hexDigit (c.toNat / 16) :: hexDigit (c.toNat % 16) :: r) =
      some c.toNat := number?_control c.toNat h
  have hchar : ofUnits? [c.toNat] = some [c] := by
    rw [ofUnits?, if_neg (by omega), if_neg (by omega)]
    simp [ofUnits?, Char.ofNat_toNat]
  simp [escape?, hunit, hchar]

/-- A printed character is read back. -/
theorem text?_escapeChar (c : Char) (r : List Char) :
    text? (escapeChar c ++ r) = (text? r).map fun (s, r) => (c :: s, r) := by
  rw [escapeChar.eq_def]
  split
  case h_8 quote slash _ _ _ _ _ =>
    split
    · rename_i control
      exact text?_escape (escape?_control control)
    · rename_i visible
      exact text?_cons quote slash visible
  all_goals exact text?_letter rfl (by decide)

theorem text?_flatMap (s r : List Char) :
    text? (s.flatMap escapeChar ++ '"' :: r) = some (s, r) := by
  induction s with
  | nil => rw [List.flatMap_nil, List.nil_append, text?]
  | cons c s ih => rw [List.flatMap_cons, List.append_assoc, text?_escapeChar, ih, Option.map_some]

end Strings

section Scan
variable {c : Char} {w v r : List Char} {ts us : List Token}

/-- The text `w` is read as the tokens `ts` where it stands before `r`. -/
def Scans (w : List Char) (ts : List Token) (r : List Char) : Prop :=
  all (w ++ r) = (all r).map (ts ++ ·)

theorem scans_nil : Scans [] [] r := by simp [Scans]

theorem Scans.append (h : Scans w ts (v ++ r)) (h' : Scans v us r) :
    Scans (w ++ v) (ts ++ us) r := by
  rw [Scans, List.append_assoc, h, h', Option.map_map]
  congr 1
  funext l
  exact (List.append_assoc ts us l).symm

theorem all_of_next {t : Token} (visible : isSpace c = false) (h : next? (c :: w) = some (t, r))
    (shorter : r.length < (c :: w).length) : all (c :: w) = (all r).map (t :: ·) := by
  rw [all, visible, h]
  simp only [Bool.false_eq_true, if_false, dif_pos shorter]

theorem scans_space (hw : ∀ c ∈ w, isSpace c = true) : Scans w [] r := by
  induction w with
  | nil => exact scans_nil
  | cons c w ih =>
    obtain ⟨hc, hw⟩ := List.forall_mem_cons.1 hw
    rw [Scans, List.cons_append, all, if_pos hc]
    exact ih hw

theorem scans_newline (n : Nat) : Scans (newline n) [] r := by
  refine scans_space (List.forall_mem_cons.2 ⟨rfl, fun c hc => ?_⟩)
  rw [(List.mem_replicate.1 hc).2]
  rfl

theorem scans_mark {t : Token} (visible : isSpace c = false) (h : mark? c = some t) :
    Scans [c] [t] r :=
  all_of_next visible (by rw [next?, h]; rfl) (by simp)

theorem scans_quote (s : String) : Scans (quote s) [.string s] r := by
  have htext : quote s ++ r = '"' :: (s.toList.flatMap escapeChar ++ '"' :: r) := by simp [quote]
  have hnext : next? ('"' :: (s.toList.flatMap escapeChar ++ '"' :: r)) = some (.string s, r) := by
    rw [next?, show mark? '"' = none from rfl, if_pos rfl, text?_flatMap]
    simp only [Option.map_some, String.ofList_toList]
  rw [Scans, htext]
  refine all_of_next rfl hnext ?_
  simp only [List.length_cons, List.length_append]
  omega

/-- A word is read as a whole where no further character of a word follows. -/
theorem scans_word {t : Token} (hw : ∀ d ∈ c :: w, isBare d = true) (h : word? (c :: w) = some t)
    (ends : EndsRun isBare r) : Scans (c :: w) [t] r := by
  have hc := hw c List.mem_cons_self
  simp only [isBare, Bool.and_eq_true, Bool.not_eq_true', Option.isNone_iff_eq_none,
    bne_iff_ne] at hc
  obtain ⟨⟨visible, noMark⟩, noQuote⟩ := hc
  have htake := takeWhile_run hw ends
  have hdrop := dropWhile_run hw ends
  rw [List.cons_append] at htake hdrop
  have hnext : next? (c :: (w ++ r)) = some (t, r) := by
    rw [next?, noMark]
    simp only [if_neg noQuote, htake, hdrop, h, Option.map_some]
  refine all_of_next visible hnext ?_
  simp only [List.append_eq, List.length_cons, List.length_append]
  omega

theorem scans_flag (b : Bool) (ends : EndsRun isBare r) :
    Scans (toString b).toList [.boolean b] r := by
  cases b with
  | false => exact scans_word (List.all_eq_true.1 rfl) rfl ends
  | true => exact scans_word (List.all_eq_true.1 rfl) rfl ends

end Scan

end Token

section Values
open Token

mutual

/-- The tokens of a value. -/
def tokens : Data → List Token
  | .text s => [.string s]
  | .flag b => [.boolean b]
  | .list [] => [.openArray, .closeArray]
  | .list (d :: ds) => .openArray :: tokens d ++ itemTokens ds ++ [.closeArray]
  | .record [] => [.openObject, .closeObject]
  | .record ((k, d) :: fs) =>
    .openObject :: .string k :: .colon :: tokens d ++ fieldTokens fs ++ [.closeObject]

/-- The tokens of items behind the first one. -/
def itemTokens : List Data → List Token
  | [] => []
  | d :: ds => .comma :: tokens d ++ itemTokens ds

/-- The tokens of fields behind the first one. -/
def fieldTokens : List (String × Data) → List Token
  | [] => []
  | (k, d) :: fs => .comma :: .string k :: .colon :: tokens d ++ fieldTokens fs

end

variable {r : List Char}

/-- A word is at its end where further items follow, or else what follows them. -/
theorem endsRun_renderItems (n : Nat) (ds : List Data) (ends : EndsRun isBare r) :
    EndsRun isBare (renderItems n ds ++ r) := by
  cases ds with
  | nil => exact ends
  | cons d ds => exact endsRun_cons.2 rfl

theorem endsRun_renderFields (n : Nat) (fs : List (String × Data)) (ends : EndsRun isBare r) :
    EndsRun isBare (renderFields n fs ++ r) := by
  cases fs with
  | nil => exact ends
  | cons f fs => exact endsRun_cons.2 rfl

/-- A key is read with its colon and the space behind it. -/
theorem scans_key (k : String) : Scans (quote k ++ [':', ' ']) [.string k, .colon] r := by
  have hspace : Scans [' '] [] r := scans_space (List.all_eq_true.1 rfl)
  exact (scans_quote k).append ((scans_mark (c := ':') rfl rfl).append hspace)

mutual

/-- A printed value is read as its tokens. -/
theorem scans_render (n : Nat) :
    (d : Data) → ∀ {r}, EndsRun isBare r → Scans (render n d) (tokens d) r
  | .text s, _, _ => scans_quote s
  | .flag b, _, ends => scans_flag b ends
  | .list [], _, _ => (scans_mark (c := '[') rfl rfl).append (scans_mark (c := ']') rfl rfl)
  | .list (d :: ds), r, _ => by
    have close : Scans (newline n ++ [']']) [.closeArray] r :=
      (scans_newline n).append (scans_mark (c := ']') rfl rfl)
    have closes : EndsRun isBare (newline n ++ [']'] ++ r) := endsRun_cons.2 rfl
    have hitems := (scans_renderItems (n + 1) ds closes).append close
    have ends := endsRun_renderItems (n + 1) ds closes
    rw [← List.append_assoc] at ends
    have hitem := (scans_render (n + 1) d ends).append hitems
    have hlist := (scans_mark (c := '[') rfl rfl).append ((scans_newline (n + 1)).append hitem)
    simpa [render, tokens] using hlist
  | .record [], _, _ => (scans_mark (c := '{') rfl rfl).append (scans_mark (c := '}') rfl rfl)
  | .record ((k, d) :: fs), r, _ => by
    have close : Scans (newline n ++ ['}']) [.closeObject] r :=
      (scans_newline n).append (scans_mark (c := '}') rfl rfl)
    have closes : EndsRun isBare (newline n ++ ['}'] ++ r) := endsRun_cons.2 rfl
    have hfields := (scans_renderFields (n + 1) fs closes).append close
    have ends := endsRun_renderFields (n + 1) fs closes
    rw [← List.append_assoc] at ends
    have hfield := (scans_key k).append ((scans_render (n + 1) d ends).append hfields)
    have hrecord := (scans_mark (c := '{') rfl rfl).append ((scans_newline (n + 1)).append hfield)
    simpa [render, tokens] using hrecord

theorem scans_renderItems (n : Nat) :
    (ds : List Data) → ∀ {r}, EndsRun isBare r → Scans (renderItems n ds) (itemTokens ds) r
  | [], _, _ => scans_nil
  | d :: ds, r, ends => by
    have hitem := (scans_render n d (endsRun_renderItems n ds ends)).append
      (scans_renderItems n ds ends)
    have hitems := (scans_mark (c := ',') rfl rfl).append ((scans_newline n).append hitem)
    simpa [renderItems, itemTokens] using hitems

theorem scans_renderFields (n : Nat) :
    (fs : List (String × Data)) → ∀ {r}, EndsRun isBare r →
      Scans (renderFields n fs) (fieldTokens fs) r
  | [], _, _ => scans_nil
  | (k, d) :: fs, r, ends => by
    have hfield := (scans_key k).append ((scans_render n d (endsRun_renderFields n fs ends)).append
      (scans_renderFields n fs ends))
    have hfields := (scans_mark (c := ',') rfl rfl).append ((scans_newline n).append hfield)
    simpa [renderFields, fieldTokens] using hfields

end

/-- The text of a value has the tokens of the value. -/
theorem all_print (d : Data) : all (print d).toList = some (tokens d) := by
  have h : Scans (render 0 d) (tokens d) [] := scans_render 0 d fun _ hc => nomatch hc
  rw [Scans, List.append_nil, all] at h
  simpa [print] using h

end Values
end EntityDesign.Json
