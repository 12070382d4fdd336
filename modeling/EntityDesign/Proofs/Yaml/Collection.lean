import EntityDesign.Proofs.Yaml.Node

/-! Lists and records are read where they are written. Items and fields stand on lines of their own,
at a column that tells the reader where the collection ends, so what is read of each of them ends in
front of the next line, and the next one is read from there. -/
namespace EntityDesign.Yaml
open Scalar Cursor

namespace Node

mutual

/-- The value that is read from the document of `d`. -/
def ofData : Data → Node
  | .text s => ofString s
  | .flag b => .scalar true (toString b)
  | .list ds => .list (ofItems ds)
  | .record fs => .mapping (ofFields fs)

/-- The values of the items of a list. -/
def ofItems : List Data → List Node
  | [] => []
  | d :: ds => ofData d :: ofItems ds

/-- The keys and values of the fields of a record. -/
def ofFields : List (String × Data) → List (Node × Node)
  | [] => []
  | (k, d) :: fs => (ofString k, ofData d) :: ofFields fs

end

/-- A value is read back where it is written: behind a key at column `n`, and behind a dash there.
What follows stands at column `m` of a further line; only behind a dash it may be a dash at the same
column. -/
structure Readable (d : Data) : Prop where
  value : ∀ {n m : Nat} {u : List Char} {c : Cursor}, c.rest = valueText n d ++ (spaces m ++ u) →
    n < c.column → Visible u → m ≤ n → (m = n → isMark '-' u = false) →
    Reads (n + 1) true c (ofData d) (spaces m ++ u)
  item : ∀ {n m : Nat} {u : List Char} {c : Cursor},
    c.rest = ' ' :: (itemText n d ++ (spaces m ++ u)) → c.column = n + 1 → c.fresh = true →
    Visible u → m ≤ n → Reads (n + 1) false c (ofData d) (spaces m ++ u)

section Leaves

/-- A value that is written in the same way behind a key and behind a dash. -/
theorem readable_leaf {d : Data} (same : ∀ n, valueText n d = ' ' :: itemText n d)
    (visible : ∀ n r, Visible (itemText n d ++ r))
    (reads : ∀ {n m k : Nat} {u : List Char} {c : Cursor} {inEntry fresh : Bool},
      c.skipGap false = ⟨k, fresh, itemText n d ++ (spaces m ++ u)⟩ → n + 1 ≤ k → Visible u →
      m ≤ n → Reads (n + 1) inEntry c (ofData d) (spaces m ++ u)) : Readable d where
  value {n m u c} hc column next hm noDash := by
    rw [same] at hc
    exact reads (skipGap_space hc (visible n _)) (by omega) next hm
  item {n m u c} hc column fresh next hm :=
    reads (skipGap_space hc (visible n _)) (by omega) next hm

theorem readable_text (s : String) : Readable (.text s) :=
  readable_leaf (fun _ => rfl) (fun _ r => (starts_write (Nat.succ_pos _) s r).visible)
    fun hgap hk visible hm =>
      reads_text hgap hk visible (.inl (Nat.lt_succ_of_le hm)) (Nat.lt_add_right 1 (by omega))

theorem readable_flag (b : Bool) : Readable (.flag b) :=
  readable_leaf (fun _ => rfl) (fun _ r => by cases b <;> exact visible_cons.2 ⟨rfl, by decide⟩)
    fun hgap hk visible hm => reads_flag hgap hk visible (.inl (Nat.lt_succ_of_le hm))

theorem readable_emptyList : Readable (.list []) :=
  readable_leaf (fun _ => rfl) (fun _ _ => visible_cons.2 ⟨rfl, by decide⟩)
    fun hgap hk _ _ => reads_brackets .list hgap hk

theorem readable_emptyRecord : Readable (.record []) :=
  readable_leaf (fun _ => rfl) (fun _ _ => visible_cons.2 ⟨rfl, by decide⟩)
    fun hgap hk _ _ => reads_brackets .record hgap hk

end Leaves

section Items
variable {n m k outer : Nat} {u r : List Char} {c : Cursor} {d : Data} {ds : List Data}

theorem starts_dash : Starts ('-' :: ' ' :: r) :=
  ⟨visible_cons.2 ⟨rfl, by decide⟩, by simp, by simp [isMarker]⟩

/-- What follows an item stands no further in. -/
theorem exists_next_item (ds : List Data) (visible : Visible u) (hm : m ≤ n) :
    ∃ m' u', itemsText n ds ++ (spaces m ++ u) = spaces m' ++ u' ∧ Visible u' ∧ m' ≤ n := by
  cases ds with
  | nil => exact ⟨m, u, rfl, visible, hm⟩
  | cons d ds => exact ⟨n, '-' :: ' ' :: (itemText n d ++ (itemsText n ds ++ (spaces m ++ u))),
      by simp [itemsText], starts_dash.visible, le_rfl⟩

theorem items_cons {i : Nat} {node : Node} {e : Cursor}
    (hc : c.skipGap false = ⟨n, true, '-' :: ' ' :: r⟩)
    (hread : blockNode (n + 1) false i ⟨n + 1, true, ' ' :: r⟩ = .ok (node, e)) :
    items n (i + 1) c = (items n i e).map fun (l, d) => (node :: l, d) := by
  rw [items]
  simp only [hc, starts_dash.atEnd, afterMark, List.tail_cons, hread]
  simp [isMark, blankNext, isBlank, bind, Except.bind]

/-- Items on lines of their own are read one by one, up to what is no item. -/
theorem items_itemsText (readable : ∀ d ∈ ds, Readable d)
    (hc : c.Faces (itemsText n ds ++ (spaces m ++ u))) (visible : Visible u) (hm : m ≤ n)
    (noDash : m = n → isMark '-' u = false) {i : Nat}
    (fuel : 2 * (c.skipGap false).rest.length + 1 ≤ i) :
    ∃ d : Cursor, items n i c = .ok (ofItems ds, d) ∧ d.Faces (spaces m ++ u) := by
  induction ds generalizing c i with
  | nil =>
    have hgap := (faces_iff visible).1 hc
    obtain ⟨i, rfl⟩ : ∃ j, i = j + 1 := ⟨i - 1, by omega⟩
    refine ⟨⟨m, true, u⟩, ?_, faces_mk visible m⟩
    rw [items, if_neg]
    · rw [hgap]
      rfl
    · rw [hgap]
      by_cases same : m = n
      · simp [noDash same]
      · simp [same]
  | cons d ds ih =>
    obtain ⟨hd, readable⟩ := List.forall_mem_cons.1 readable
    obtain ⟨m', u', hnext, visible', hm'⟩ := exists_next_item (n := n) ds visible hm
    have hgap : c.skipGap false =
        ⟨n, true, '-' :: ' ' :: (itemText n d ++ (itemsText n ds ++ (spaces m ++ u)))⟩ :=
      (faces_iff starts_dash.visible).1 (by simpa [itemsText] using hc)
    rw [hgap] at fuel
    simp only [List.length_cons] at fuel
    obtain ⟨i, rfl⟩ : ∃ j, i = j + 1 := ⟨i - 1, by omega⟩
    let item : Cursor :=
      ⟨n + 1, true, ' ' :: (itemText n d ++ (itemsText n ds ++ (spaces m ++ u)))⟩
    obtain ⟨e, hread, hface⟩ := hd.item (c := item) (by rw [← hnext]) rfl rfl visible' hm' i
      (by simp only [item, List.length_cons]; omega)
    have hlen := length_le_of_faces visible' hface
    rw [← hnext] at hface hlen
    obtain ⟨e', hrest, hface'⟩ := ih readable hface (i := i) (by
      simp only [List.length_append] at hlen fuel
      omega)
    refine ⟨e', ?_, hface'⟩
    rw [items_cons hgap hread, hrest]
    rfl

theorem blockNode_dash {inEntry : Bool} {i : Nat}
    (hc : c.skipGap false = ⟨k, true, '-' :: ' ' :: r⟩)
    (inside : outer ≤ k ∨ inEntry = true ∧ k + 1 = outer) :
    blockNode outer inEntry (i + 1) c =
      (items k i ⟨k, true, '-' :: ' ' :: r⟩).map fun (l, d) => (.list l, d) := by
  rw [blockNode]
  simp only [hc, starts_dash.atEnd, Bool.false_eq_true, if_false]
  rcases inside with h | ⟨h, h'⟩
  · simp [Nat.not_lt.2 h, isMark, blankNext, isBlank]
  · simp [← h', h, isMark, blankNext, isBlank]

/-- A list is read from its first dash on. -/
theorem reads_items {inEntry : Bool} (readable : ∀ e ∈ d :: ds, Readable e)
    (hc : c.skipGap false =
      ⟨n, true, '-' :: ' ' :: (itemText n d ++ (itemsText n ds ++ (spaces m ++ u)))⟩)
    (inside : outer ≤ n ∨ inEntry = true ∧ n + 1 = outer) (visible : Visible u) (hm : m ≤ n)
    (noDash : m = n → isMark '-' u = false) :
    Reads outer inEntry c (ofData (.list (d :: ds))) (spaces m ++ u) := by
  intro i fuel
  obtain ⟨i, rfl⟩ : ∃ j, i = j + 1 := ⟨i - 1, by omega⟩
  have hface : Faces ⟨n, true,
      '-' :: ' ' :: (itemText n d ++ (itemsText n ds ++ (spaces m ++ u)))⟩
      (itemsText n (d :: ds) ++ (spaces m ++ u)) := by
    simpa [itemsText] using faces_mk starts_dash.visible n
  obtain ⟨e, hread, hend⟩ := items_itemsText readable hface visible hm noDash (i := i) (by
    rw [skipGap_visible starts_dash.visible, ← hc]
    have : (c.skipGap false).rest.length ≤ c.rest.length := length_skipGap_le c
    omega)
  refine ⟨e, ?_, hend⟩
  rw [blockNode_dash hc inside, hread]
  rfl

end Items

section Keys
variable {n : Nat} {key : String} {v : List Char}

theorem blankNext_valueText (n : Nat) (d : Data) (r : List Char) :
    blankNext (valueText n d ++ r) = true := by
  rcases d with s | b | (- | ⟨d, ds⟩) | (- | ⟨f, fs⟩) <;>
    simp [valueText, blankNext, isBlank, isBreak]

theorem keyText_complex (h : isSimpleKey key = false) (n : Nat) (v : List Char) :
    keyText n key ++ v = '?' :: ' ' :: (write (n + 2) key ++ (spaces n ++ ':' :: v)) := by
  simp [keyText, h]

/-- A key on one line is read up to the place behind its colon, whether it is the first of a mapping
or a further one. -/
theorem exists_afterColon (simple : isSimpleKey key = true) (n : Nat) (blank : blankNext v = true) :
    Opens (keyText n key ++ v) ∧ ∃ (d : Cursor) (column : Nat), n < column ∧
      (∀ outer i, flowNode false outer (i + 1) ⟨n, true, keyText n key ++ v⟩ =
        .ok (ofString key, d)) ∧
      d.afterColon? false ⟨n, true, keyText n key ++ v⟩ = some ⟨column, false, v⟩ := by
  obtain ⟨t, ht, hwrite, inLine, short⟩ := exists_of_isSimpleKey (Nat.succ_pos (n + 1)) simple
  have hkey : keyText n key ++ v = t ++ ':' :: v := by
    rw [keyText, if_pos simple, hwrite, List.dropLast_concat, List.append_assoc]
    rfl
  have stops : Stops (':' :: v) := .inl rfl
  rw [hkey]
  refine ⟨opens_inline ht stops, ⟨n + t.length, false, ':' :: v⟩, n + t.length + 1, by omega,
    fun outer i => ?_, afterColon?_key rfl rfl inLine short blank⟩
  have hplain : Flow.plain false outer (':' :: v) = _ := Flow.plain_colon blank
  have hread := flowNode_inline (n := i) (c := ⟨n, true, t ++ ':' :: v⟩) ht rfl stops
    (fun _ => hplain) fun _ => rfl
  rw [String.ofList_toList, moveTo_inLine rfl inLine] at hread
  exact hread

theorem starts_keyText (n : Nat) (key : String) (blank : blankNext v = true) :
    Starts (keyText n key ++ v) ∧ isMark '-' (keyText n key ++ v) = false := by
  by_cases simple : isSimpleKey key = true
  · have opens := (exists_afterColon simple n blank).1
    exact ⟨opens.toStarts, opens.noDash⟩
  · rw [keyText_complex (by simpa using simple)]
    exact ⟨starts_cons rfl (by decide), by simp [isMark]⟩

end Keys

section Fields
variable {n m k outer i : Nat} {u r : List Char} {c : Cursor} {key : String} {d : Data}
  {fs : List (String × Data)}

/-- What follows a field stands no further in, and no dash stands there. -/
theorem exists_next_field (fs : List (String × Data)) (visible : Visible u) (hm : m ≤ n)
    (ends : m < n ∨ u = []) : ∃ m' u', fieldsText n fs ++ (spaces m ++ u) = spaces m' ++ u' ∧
      Visible u' ∧ m' ≤ n ∧ (m' = n → isMark '-' u' = false) := by
  cases fs with
  | nil =>
    refine ⟨m, u, rfl, visible, hm, fun same => ?_⟩
    rcases ends with h | rfl
    · omega
    · rfl
  | cons f fs =>
    obtain ⟨key, d⟩ := f
    have hkey := starts_keyText n key
      (blankNext_valueText n d (fieldsText n fs ++ (spaces m ++ u)))
    exact ⟨n, _, by simp [fieldsText], hkey.1.visible, le_rfl, fun _ => hkey.2⟩

theorem length_keyText_pos (n : Nat) (key : String) : 0 < (keyText n key).length := by
  rw [keyText]
  split <;> simp

/-- The place behind the colon of a field, from which its value is read. Behind a question mark the
key is a value of its own, and the colon stands on the next line. -/
theorem exists_value_place (hc : c.skipGap false = ⟨n, true, keyText n key ++ r⟩)
    (blank : blankNext r = true) (fuel : 2 * (c.skipGap false).rest.length + 1 ≤ i + 1) :
    ∃ place : Cursor, place.rest = r ∧ n < place.column ∧ ∀ (node : Node) (d : Cursor),
      blockNode (n + 1) true i place = .ok (node, d) → entries n (i + 1) c =
        (entries n i d).map fun (l, d) => ((ofString key, node) :: l, d) := by
  by_cases simple : isSimpleKey key = true
  · obtain ⟨opens, e, column, hcolumn, hread, hcolon⟩ := exists_afterColon simple n blank
    refine ⟨⟨column, false, r⟩, rfl, hcolumn, fun node d hvalue => ?_⟩
    rw [entries]
    simp only [hc, opens.atEnd, opens.noQuestion, hread]
    simp [bind, Except.bind, hcolon, hvalue]
  · rw [keyText_complex (by simpa using simple)] at hc
    have visible : Visible (':' :: r) := visible_cons.2 ⟨rfl, by decide⟩
    obtain ⟨e, hkey, hface⟩ := (readable_text key).value (n := n) (m := n) (u := ':' :: r)
      (c := ⟨n + 1, true, ' ' :: (write (n + 2) key ++ (spaces n ++ ':' :: r))⟩) rfl
      (Nat.lt_succ_self n) visible le_rfl (fun _ => rfl) i (by
        simp only [hc, List.length_cons] at fuel ⊢
        omega)
    have hgap := (faces_iff visible).1 hface
    refine ⟨⟨n + 1, true, r⟩, rfl, Nat.lt_succ_self n, fun node d hvalue => ?_⟩
    have question :
      isMark '?' ('?' :: ' ' :: (write (n + 2) key ++ (spaces n ++ ':' :: r))) = true := rfl
    have colon : isMark ':' (':' :: r) = true := by simp [isMark, blank]
    rw [entries]
    simp only [hc, question, afterMark, List.tail_cons, hkey]
    simp [Cursor.atEnd, isMarker, hgap, colon, hvalue, ofData, bind, Except.bind]

/-- Fields on lines of their own are read one by one, up to a line that stands further out. -/
theorem entries_fieldsText (readable : ∀ f ∈ fs, Readable f.2)
    (hc : c.Faces (fieldsText n fs ++ (spaces m ++ u))) (visible : Visible u) (hm : m ≤ n)
    (ends : m < n ∨ u = []) (fuel : 2 * (c.skipGap false).rest.length + 1 ≤ i) :
    ∃ e : Cursor, entries n i c = .ok (ofFields fs, e) ∧ e.Faces (spaces m ++ u) := by
  induction fs generalizing c i with
  | nil =>
    have hgap := (faces_iff visible).1 hc
    obtain ⟨i, rfl⟩ : ∃ j, i = j + 1 := ⟨i - 1, by omega⟩
    refine ⟨⟨m, true, u⟩, ?_, faces_mk visible m⟩
    rw [entries, if_pos]
    · rw [hgap]
      rfl
    · rw [hgap]
      rcases ends with h | rfl
      · simp [h.ne]
      · simp [Cursor.atEnd]
  | cons f fs ih =>
    obtain ⟨key, d⟩ := f
    obtain ⟨hd, readable⟩ := List.forall_mem_cons.1 readable
    obtain ⟨m', u', hnext, visible', hm', noDash⟩ := exists_next_field (n := n) fs visible hm ends
    have blank := blankNext_valueText n d (fieldsText n fs ++ (spaces m ++ u))
    have hgap : c.skipGap false =
        ⟨n, true, keyText n key ++ (valueText n d ++ (fieldsText n fs ++ (spaces m ++ u)))⟩ :=
      (faces_iff (starts_keyText n key blank).1.visible).1 (by simpa [fieldsText] using hc)
    have hpos := length_keyText_pos n key
    obtain ⟨i, rfl⟩ : ∃ j, i = j + 1 := ⟨i - 1, by omega⟩
    obtain ⟨place, hplace, hcolumn, hentry⟩ := exists_value_place hgap blank fuel
    rw [hgap] at fuel
    simp only [List.length_append] at fuel
    obtain ⟨e, hvalue, hface⟩ := hd.value (c := place) (by rw [hplace, hnext]) hcolumn visible' hm'
      noDash i (by rw [hplace]; simp only [List.length_append]; omega)
    have hlen := length_le_of_faces visible' hface
    rw [← hnext] at hface hlen
    obtain ⟨e', hrest, hface'⟩ := ih readable hface (i := i) (by
      simp only [List.length_append] at hlen
      omega)
    refine ⟨e', ?_, hface'⟩
    rw [hentry _ _ hvalue, hrest]
    rfl

/-- A record begins with its first key, which is read as a value before the colon tells that it is
a key. -/
theorem exists_entries (inEntry : Bool)
    (hc : c.skipGap false = ⟨n, true, keyText n key ++ r⟩) (blank : blankNext r = true)
    (hn : outer ≤ n) : ∃ j, i ≤ j ∧ blockNode outer inEntry (i + 1) c =
      (entries n j ⟨n, true, keyText n key ++ r⟩).map fun (l, d) => (.mapping l, d) := by
  by_cases simple : isSimpleKey key = true
  · obtain ⟨opens, e, column, -, hread, hcolon⟩ := exists_afterColon simple n blank
    refine ⟨i + 1, Nat.le_succ i, ?_⟩
    rw [blockNode_opens hc opens hn, entries]
    simp only [skipGap_visible (c := ⟨n, true, keyText n key ++ r⟩) opens.visible,
      opens.atEnd, opens.noQuestion, hread]
    simp only [bind, Except.bind, hcolon, if_true, bne_self_eq_false, Bool.or_self,
      Bool.false_eq_true, if_false]
    cases blockNode (n + 1) true i ⟨column, false, r⟩ with
    | error => rfl
    | ok v =>
      dsimp only
      cases entries n i v.2 <;> rfl
  · refine ⟨i, le_rfl, ?_⟩
    rw [keyText_complex (by simpa using simple)] at hc ⊢
    rw [blockNode]
    simp [hc, Cursor.atEnd, isMarker, isMark, blankNext, isBlank, Nat.not_lt.2 hn]

/-- A record is read from its first key on. -/
theorem reads_fields {inEntry : Bool} (readable : ∀ f ∈ (key, d) :: fs, Readable f.2)
    (hc : c.skipGap false =
      ⟨n, true, keyText n key ++ (valueText n d ++ (fieldsText n fs ++ (spaces m ++ u)))⟩)
    (hn : outer ≤ n) (visible : Visible u) (hm : m ≤ n) (ends : m < n ∨ u = []) :
    Reads outer inEntry c (ofData (.record ((key, d) :: fs))) (spaces m ++ u) := by
  intro i fuel
  obtain ⟨i, rfl⟩ : ∃ j, i = j + 1 := ⟨i - 1, by omega⟩
  have blank := blankNext_valueText n d (fieldsText n fs ++ (spaces m ++ u))
  have visible' := (starts_keyText n key blank).1.visible
  obtain ⟨j, hj, hnode⟩ := exists_entries inEntry (i := i) hc blank hn
  have hface : Faces ⟨n, true,
      keyText n key ++ (valueText n d ++ (fieldsText n fs ++ (spaces m ++ u)))⟩
      (fieldsText n ((key, d) :: fs) ++ (spaces m ++ u)) := by
    simpa [fieldsText] using faces_mk visible' n
  obtain ⟨e, hread, hend⟩ := entries_fieldsText readable hface visible hm ends (i := j) (by
    rw [skipGap_visible visible', ← hc]
    have : (c.skipGap false).rest.length ≤ c.rest.length := length_skipGap_le c
    omega)
  refine ⟨e, ?_, hend⟩
  rw [hnode, hread]
  rfl

end Fields

theorem readable_list {d : Data} {ds : List Data} (readable : ∀ e ∈ d :: ds, Readable e) :
    Readable (.list (d :: ds)) where
  value {n m u c} hc column visible hm noDash := by
    have hface : c.Faces (itemsText n (d :: ds) ++ (spaces m ++ u)) := faces_lineFeed hc
    have hgap := (faces_iff starts_dash.visible).1 (by simpa [itemsText] using hface)
    exact reads_items readable hgap (.inr ⟨rfl, rfl⟩) visible hm noDash
  item {n m u c} hc column fresh visible hm := by
    have hgap := skipGap_space (u := '-' :: ' ' :: (itemText (n + 2) d ++ (itemsText (n + 2) ds ++
      (spaces m ++ u)))) (by simpa [itemText] using hc) starts_dash.visible
    rw [column, fresh] at hgap
    exact reads_items readable hgap (.inl (by omega)) visible (by omega) (by omega)

theorem readable_record {key : String} {d : Data} {fs : List (String × Data)}
    (readable : ∀ f ∈ (key, d) :: fs, Readable f.2) : Readable (.record ((key, d) :: fs)) where
  value {n m u c} hc column visible hm noDash := by
    have blank := blankNext_valueText (n + 2) d (fieldsText (n + 2) fs ++ (spaces m ++ u))
    have hface : c.Faces (fieldsText (n + 2) ((key, d) :: fs) ++ (spaces m ++ u)) :=
      faces_lineFeed hc
    have hgap := (faces_iff (starts_keyText (n + 2) key blank).1.visible).1
      (by simpa [fieldsText] using hface)
    exact reads_fields readable hgap (by omega) visible (by omega) (.inl (by omega))
  item {n m u c} hc column fresh visible hm := by
    have blank := blankNext_valueText (n + 2) d (fieldsText (n + 2) fs ++ (spaces m ++ u))
    have hgap := skipGap_space (u := keyText (n + 2) key ++ (valueText (n + 2) d ++
      (fieldsText (n + 2) fs ++ (spaces m ++ u)))) (by simpa [itemText] using hc)
      (starts_keyText (n + 2) key blank).1.visible
    rw [column, fresh] at hgap
    exact reads_fields readable hgap (by omega) visible (by omega) (.inl (by omega))

/-- Every value is read back, behind a key and behind a dash. -/
theorem readable : (d : Data) → Readable d
  | .text s => readable_text s
  | .flag b => readable_flag b
  | .list [] => readable_emptyList
  | .list (d :: ds) => readable_list fun e _ => readable e
  | .record [] => readable_emptyRecord
  | .record ((key, d) :: fs) => readable_record fun (_, e) _ => readable e
termination_by d => d
decreasing_by
  all_goals
    have smaller := List.sizeOf_lt_of_mem ‹_ ∈ _›
    simp only [Data.list.sizeOf_spec, Data.record.sizeOf_spec, Prod.mk.sizeOf_spec] at smaller ⊢
    omega

end Node
end EntityDesign.Yaml
