import EntityDesign.Proofs.Yaml.Collection

/-! The document of a value is read as that value. It is written in printable characters, so nothing
in it is refused or taken for another line break, and it is read from its first character to its
end. -/
namespace EntityDesign.Yaml
open Scalar Cursor

section Characters

theorem printable_spaces (n : Nat) : ∀ c ∈ spaces n, isPrintable c = true :=
  fun _ h => mem_spaces h ▸ rfl

theorem printable_keyText (n : Nat) (k : String) : ∀ c ∈ keyText n k, isPrintable c = true := by
  have hwrite := printable_write (Nat.succ_pos (n + 1)) k
  rw [keyText]
  split
  · exact List.forall_mem_append.2 ⟨fun c hc => hwrite c (List.dropLast_subset _ hc),
      List.all_eq_true.1 rfl⟩
  · simp only [List.cons_append, List.forall_mem_cons, List.forall_mem_append]
    exact ⟨rfl, rfl, ⟨hwrite, printable_spaces n⟩, rfl, by simp⟩

theorem printable_flagText (b : Bool) : ∀ c ∈ flagText b, isPrintable c = true := by
  cases b <;> exact List.all_eq_true.1 rfl

mutual

theorem printable_valueText (n : Nat) : (d : Data) → ∀ c ∈ valueText n d, isPrintable c = true
  | .text s => List.forall_mem_cons.2 ⟨rfl, printable_write (Nat.succ_pos _) s⟩
  | .flag b => List.forall_mem_cons.2 ⟨rfl, printable_flagText b⟩
  | .list [] => by simp only [valueText]; exact List.all_eq_true.1 rfl
  | .list (d :: ds) => List.forall_mem_cons.2 ⟨rfl, printable_itemsText n (d :: ds)⟩
  | .record [] => by simp only [valueText]; exact List.all_eq_true.1 rfl
  | .record (f :: fs) => List.forall_mem_cons.2 ⟨rfl, printable_fieldsText (n + 2) (f :: fs)⟩

theorem printable_itemText (n : Nat) : (d : Data) → ∀ c ∈ itemText n d, isPrintable c = true
  | .text s => printable_write (Nat.succ_pos _) s
  | .flag b => printable_flagText b
  | .list [] => by simp only [itemText]; exact List.all_eq_true.1 rfl
  | .list (d :: ds) => by
    simp only [itemText, List.cons_append, List.forall_mem_cons, List.forall_mem_append]
    exact ⟨rfl, rfl, printable_itemText (n + 2) d, printable_itemsText (n + 2) ds⟩
  | .record [] => by simp only [itemText]; exact List.all_eq_true.1 rfl
  | .record ((k, d) :: fs) => by
    simp only [itemText, List.forall_mem_append]
    exact ⟨⟨printable_keyText (n + 2) k, printable_valueText (n + 2) d⟩,
      printable_fieldsText (n + 2) fs⟩

theorem printable_itemsText (n : Nat) :
    (ds : List Data) → ∀ c ∈ itemsText n ds, isPrintable c = true
  | [] => by simp [itemsText]
  | d :: ds => by
    simp only [itemsText, List.forall_mem_cons, List.forall_mem_append]
    exact ⟨⟨printable_spaces n, rfl, rfl, printable_itemText n d⟩, printable_itemsText n ds⟩

theorem printable_fieldsText (n : Nat) :
    (fs : List (String × Data)) → ∀ c ∈ fieldsText n fs, isPrintable c = true
  | [] => by simp [fieldsText]
  | (k, d) :: fs => by
    simp only [fieldsText, List.forall_mem_append]
    exact ⟨⟨⟨printable_spaces n, printable_keyText n k⟩, printable_valueText n d⟩,
      printable_fieldsText n fs⟩

end

/-- A document is written in printable characters. -/
theorem printable_print (d : Data) : ∀ c ∈ (print d).toList, isPrintable c = true := by
  unfold print
  rw [String.toList_ofList]
  split
  · exact printable_write (by decide) _
  · exact printable_flagText _
  · exact List.all_eq_true.1 rfl
  · exact printable_itemsText 0 _
  · exact List.all_eq_true.1 rfl
  · exact printable_fieldsText 0 _

theorem unifyBreaks_eq_self {s : List Char} (h : ∀ c ∈ s, isPrintable c = true) :
    unifyBreaks s = s := by
  induction s with
  | nil => rfl
  | cons c s ih =>
    obtain ⟨hc, hs⟩ := List.forall_mem_cons.1 h
    obtain ⟨-, -, hr, hn, -⟩ := isPrintable_iff.1 hc
    rw [unifyBreaks, ih hs, if_neg (by simp [hr, hn])]
    rintro _ rfl
    exact absurd rfl hr

end Characters

namespace Node

theorem starts_print (d : Data) : Starts (print d).toList := by
  unfold print
  rw [String.toList_ofList]
  rcases d with s | b | (- | ⟨d, ds⟩) | (- | ⟨⟨key, d⟩, fs⟩)
  case text => simpa using starts_write Nat.two_pos s []
  case flag => cases b <;> exact starts_cons rfl (by decide)
  case list.nil => exact starts_cons rfl (by decide)
  case list.cons => simpa [itemsText, spaces] using starts_dash
  case record.nil => exact starts_cons rfl (by decide)
  case record.cons =>
    simpa [fieldsText, spaces] using
      (starts_keyText 0 key (blankNext_valueText 0 d (fieldsText 0 fs))).1

/-- The value of a document is read from its first character to its end. -/
theorem reads_print (d : Data) : Reads 0 false ⟨0, true, (print d).toList⟩ (ofData d) [] := by
  have starts := starts_print d
  have hgap : skipGap false ⟨0, true, (print d).toList⟩ = _ := skipGap_visible starts.visible
  unfold print at hgap ⊢
  rw [String.toList_ofList] at hgap ⊢
  rcases d with s | b | (- | ⟨d, ds⟩) | (- | ⟨⟨key, d⟩, fs⟩)
  case text =>
    exact reads_text (m := 0) (by simpa [spaces] using hgap) le_rfl visible_nil
      (.inr rfl) (by decide)
  case flag =>
    exact reads_flag (m := 0) (by simpa [spaces] using hgap) le_rfl visible_nil
      (.inr rfl)
  case list.nil => exact reads_brackets .list hgap le_rfl
  case list.cons =>
    exact reads_items (m := 0) (fun e _ => readable e) (by simpa [spaces, itemsText] using hgap)
      (.inl le_rfl) visible_nil le_rfl (fun _ => rfl)
  case record.nil => exact reads_brackets .record hgap le_rfl
  case record.cons =>
    exact reads_fields (m := 0) (fun f _ => readable f.2)
      (by simpa [spaces, fieldsText] using hgap) le_rfl visible_nil le_rfl (.inr rfl)

section Injective

/-- The word of a flag is quoted where it is a text. -/
theorem ofString_ne_flag (s : String) (b : Bool) : ofString s ≠ ofData (.flag b) := by
  intro h
  obtain ⟨hplain, rfl⟩ := scalar.inj h
  cases b <;> exact absurd hplain (by decide +kernel)

mutual

/-- Different data are read as different values. -/
theorem eq_of_ofData : {d d' : Data} → ofData d = ofData d' → d = d'
  | .text s, d', h => by
    cases d' with
    | text s' => rw [(scalar.inj h).2]
    | flag b => exact absurd h (ofString_ne_flag s b)
    | _ => cases h
  | .flag b, d', h => by
    cases d' with
    | text s => exact absurd h.symm (ofString_ne_flag s b)
    | flag b' =>
      have word_injective : ∀ b b' : Bool, toString b = toString b' → b = b' := by decide
      rw [word_injective b b' (scalar.inj h).2]
    | _ => cases h
  | .list ds, d', h => by
    cases d' with
    | list ds' => exact congrArg Data.list (eq_of_ofItems (list.inj h))
    | _ => cases h
  | .record fs, d', h => by
    cases d' with
    | record fs' => exact congrArg Data.record (eq_of_ofFields (mapping.inj h))
    | _ => cases h

theorem eq_of_ofItems : {ds ds' : List Data} → ofItems ds = ofItems ds' → ds = ds'
  | [], [], _ => rfl
  | d :: ds, d' :: ds', h => by
    obtain ⟨hd, hds⟩ := List.cons.inj h
    rw [eq_of_ofData hd, eq_of_ofItems hds]

theorem eq_of_ofFields :
    {fs fs' : List (String × Data)} → ofFields fs = ofFields fs' → fs = fs'
  | [], [], _ => rfl
  | (k, d) :: fs, (k', d') :: fs', h => by
    obtain ⟨hf, hfs⟩ := List.cons.inj h
    obtain ⟨hk, hd⟩ := Prod.mk.inj hf
    rw [(scalar.inj hk).2, eq_of_ofData hd, eq_of_ofFields hfs]

end

end Injective

end Node

/-- The document of a value is read as that value. -/
theorem read_print (d : Data) : read (print d).toList = .ok (some (Node.ofData d)) := by
  have printable := printable_print d
  have starts := Node.starts_print d
  have legal : (print d).toList.all isChar = true :=
    List.all_eq_true.2 fun c hc => (isPrintable_iff.1 (printable c hc)).1
  have hstart : (Cursor.ofText (print d).toList).skipGap false = ⟨0, true, (print d).toList⟩ :=
    skipGap_visible starts.visible
  have hend := starts.atEnd 0 true
  obtain ⟨e, hnode, hface⟩ :=
    Node.reads_print d (4 * (print d).toList.length + 4) (by dsimp only; omega)
  have hgap := (faces_iff (m := 0) visible_nil).1 hface
  have hfinish : finishes (4 * (print d).toList.length + 4) e = true := by
    rw [finishes, hgap]
  simp [read, legal, unifyBreaks_eq_self printable, hstart, hend, starts.nonempty, hnode, hfinish,
    bind, Except.bind, pure, Except.pure]

/-- Different values have different documents. -/
theorem print_injective : Function.Injective print := by
  intro d d' h
  have hread := read_print d
  rw [h, read_print] at hread
  exact (Node.eq_of_ofData (Option.some.inj (Except.ok.inj hread))).symm

end EntityDesign.Yaml
