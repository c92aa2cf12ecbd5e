import Crossover.Proofs.Json.Reading

/-!
# Lists and records read back

The reader of a list or of an object meets the written members one after the other. What is
still to come of a record is followed field by field (`Pending`): a field has been filled, or is
not written and has a fallback, or its text is due. A list or a record comes back exactly when
all its members do.
-/

namespace Crossover.Json

variable {α β ρ : Type}

/-- The members that are still to come, the first of them without a comma if none came before. -/
def remaining (first : Bool) (ts : List (List Char)) : List Char :=
  if first then commaSeparated ts else ts.flatMap (',' :: ·)

@[simp] theorem remaining_nil (first : Bool) : remaining first [] = [] := by
  cases first <;> rfl

theorem commaSeparated_cons (t : List Char) (ts : List (List Char)) :
    commaSeparated (t :: ts) = t ++ ts.flatMap (',' :: ·) := by
  induction ts generalizing t with
  | nil => rw [commaSeparated, List.flatMap_nil, List.append_nil]
  | cons u ts ih =>
      change t ++ ',' :: commaSeparated (u :: ts) = _
      rw [ih, List.flatMap_cons, List.cons_append]

@[simp] theorem remaining_first (t : List Char) (ts : List (List Char)) :
    remaining true (t :: ts) = t ++ remaining false ts :=
  commaSeparated_cons t ts

@[simp] theorem remaining_later (t : List Char) (ts : List (List Char)) :
    remaining false (t :: ts) = ',' :: (t ++ remaining false ts) := rfl

theorem remaining_delimited {close : Char} (hclose : close = ']' ∨ close = '\x7d')
    (ts : List (List Char)) (rest : List Char) :
    Delimited (remaining false ts ++ close :: rest) := by
  cases ts with
  | cons t ts => exact .comma _
  | nil =>
      rcases hclose with rfl | rfl
      · exact .bracket rest
      · exact .brace rest

theorem length_le_remaining (ts : List (List Char)) : ts.length ≤ (remaining false ts).length := by
  induction ts with
  | nil => exact Nat.le_refl _
  | cons t ts ih =>
      rw [remaining_later, List.length_cons, List.length_cons, List.length_append]
      omega

/-- There is a character for each member, so fuel counted in characters suffices. -/
theorem exists_fuel {ts : List (List Char)} (h : ∀ t ∈ ts, t ≠ []) (rest : List Char) :
    ∃ fuel, (remaining true ts ++ rest).length = ts.length + fuel := by
  apply Nat.exists_eq_add_of_le
  cases ts with
  | nil => exact Nat.zero_le _
  | cons t ts =>
      have hfirst := List.length_pos_iff.mpr (h t List.mem_cons_self)
      have hlater := length_le_remaining ts
      rw [remaining_first, List.length_append, List.length_append, List.length_cons]
      omega

/-! ## Lists -/

/-- The text of an element does not look like a blank or the end of the list. -/
def Opens (t : List Char) : Prop :=
  ∃ c cs, t = c :: cs ∧ Cursor.isBlank c = false ∧ c ≠ ']'

theorem mapM_cons_eq (back : β → Option α) (b : β) (bs : List β) :
    (b :: bs).mapM back = (back b).bind fun a => (bs.mapM back).map (a :: ·) := by
  rw [List.mapM_cons]
  cases back b with
  | none => rfl
  | some a => cases bs.mapM back <;> rfl

theorem mapM_eq_some {back : α → Option α} {as : List α} (h : ∀ a ∈ as, back a = some a) :
    as.mapM back = some as := by
  induction as with
  | nil => rfl
  | cons a as ih =>
      rw [mapM_cons_eq, h a List.mem_cons_self, ih fun b hb => h b (List.mem_cons_of_mem _ hb)]
      rfl

theorem exists_of_mapM_eq_some {back : β → Option α} {bs : List β} {as : List α}
    (h : bs.mapM back = some as) {b : β} (hb : b ∈ bs) : ∃ a, back b = some a := by
  induction bs generalizing as with
  | nil => cases hb
  | cons c bs ih =>
      rw [mapM_cons_eq] at h
      obtain ⟨a, ha, h⟩ := Option.bind_eq_some_iff.mp h
      obtain ⟨as', has', -⟩ := Option.map_eq_some_iff.mp h
      rcases List.mem_cons.mp hb with rfl | hb
      · exact ⟨a, ha⟩
      · exact ih has' hb

namespace Cursor

theorem moreElements_end (first : Bool) (rest : List Char) (p : Place) :
    moreElements first ⟨']' :: rest, p⟩ = .ok (false, ⟨']' :: rest, p⟩) := by
  rw [moreElements, skipBlanks_cons _ _ (by decide)]
  rfl

theorem moreElements_remaining {t : List Char} (h : Opens t) (first : Bool)
    (ts : List (List Char)) (rest : List Char) (p : Place) :
    ∃ p', moreElements first ⟨remaining first (t :: ts) ++ rest, p⟩ =
      .ok (true, ⟨t ++ (remaining false ts ++ rest), p'⟩) := by
  obtain ⟨c, cs, rfl, hblank, hclose⟩ := h
  cases first with
  | true =>
      refine ⟨p, ?_⟩
      simp only [remaining_first, List.cons_append, List.append_assoc, moreElements,
        skipBlanks_cons _ _ hblank, if_neg hclose, if_true]
  | false =>
      refine ⟨p.after ',', ?_⟩
      have hcomma : ',' ≠ ']' := by decide
      simp only [remaining_later, List.cons_append, List.append_assoc, moreElements,
        skipBlanks_cons _ _ (show isBlank ',' = false by decide), if_neg hcomma,
        Bool.false_eq_true, if_false, if_true, advance_cons, skipBlanks_cons _ _ hblank,
        if_neg hclose]

theorem closeList_end (rest : List Char) (p : Place) :
    closeList ⟨']' :: rest, p⟩ = .ok ⟨rest, p.after ']'⟩ := by
  rw [closeList, skipBlanks_cons _ _ (by decide)]
  rfl

/-- The elements come back one after the other, or one of them is refused. -/
theorem elements_leaves {item : Cursor → Except Error (α × Cursor)} {write : β → List Char}
    {back : β → Option α}
    (hitem : ∀ b rest, Delimited rest → ∀ p, Leaves rest (back b) (item ⟨write b ++ rest, p⟩))
    (hopens : ∀ b, Opens (write b)) (bs : List β) (fuel : Nat) (first : Bool) (read : List α)
    (rest : List Char) (p : Place) :
    Leaves rest ((bs.mapM back).map (read.reverse ++ ·))
      (elements item (bs.length + fuel + 1) first read
        ⟨remaining first (bs.map write) ++ ']' :: rest, p⟩) := by
  -- `fuel` is what the characters leave over once each element has its step
  induction bs generalizing first read p with
  | nil =>
      simp only [List.map_nil, remaining_nil, List.nil_append, elements, moreElements_end,
        closeList_end, bind, Except.bind, Bool.false_eq_true, if_false, pure, Except.pure,
        List.mapM_nil, Option.map_some, List.append_nil]
      exact .value _ _
  | cons b bs ih =>
      rw [List.map_cons, List.length_cons,
        show bs.length + 1 + fuel + 1 = (bs.length + fuel + 1) + 1 by omega]
      obtain ⟨p₁, hmore⟩ := moreElements_remaining (hopens b) first (bs.map write) (']' :: rest) p
      have hleaves := hitem b (remaining false (bs.map write) ++ ']' :: rest)
        (remaining_delimited (.inl rfl) _ _) p₁
      have hcons (a : α) : ((bs.mapM back).map (a :: ·)).map (read.reverse ++ ·) =
          (bs.mapM back).map ((a :: read).reverse ++ ·) := by
        rw [Option.map_map]
        congr 1
        funext as
        simp
      rw [elements, hmore, mapM_cons_eq]
      simp only [bind, Except.bind, if_true]
      generalize item ⟨write b ++ (remaining false (bs.map write) ++ ']' :: rest), p₁⟩ = reply
        at hleaves
      generalize back b = o at hleaves
      cases hleaves with
      | failure e => exact .failure e
      | value a p₂ =>
          have hrest := ih false (a :: read) p₂
          rw [← hcons] at hrest
          exact hrest

end Cursor

theorem listText_append (ts : List (List Char)) (rest : List Char) :
    listText ts ++ rest = '[' :: (remaining true ts ++ ']' :: rest) := by
  simp [listText, remaining]

/-- A list comes back if all its elements do. -/
theorem Reader.list_makes {depth : Nat} {item : Reader α} {write : β → List Char}
    {back : β → Option α} (hitem : ∀ b, Makes depth item (write b) (back b))
    (hopens : ∀ b, Opens (write b)) (bs : List β) :
    Makes (depth + 1) (Reader.list item) (listText (bs.map write)) (bs.mapM back) := by
  intro levels hlevels rest _ p
  obtain ⟨levels, rfl⟩ := Nat.exists_eq_add_of_le' (Nat.le_of_add_left_le hlevels)
  have hwritten : ∀ t ∈ bs.map write, t ≠ [] := by
    intro t ht
    obtain ⟨b, -, rfl⟩ := List.mem_map.mp ht
    obtain ⟨c, cs, hcons, -⟩ := hopens b
    rw [hcons]
    exact List.cons_ne_nil _ _
  obtain ⟨fuel, hfuel⟩ := exists_fuel hwritten (']' :: rest)
  rw [List.length_map] at hfuel
  have helements := Cursor.elements_leaves
    (fun b rest hrest p => hitem b levels (Nat.le_of_add_le_add_right hlevels) rest hrest p)
    hopens bs fuel true [] rest (p.after '[')
  rw [listText_append, Reader.list, Cursor.skipBlanks_cons _ _ (by decide)]
  dsimp only [Cursor.nested, Cursor.advance_cons]
  rw [hfuel]
  simpa using helements

/-! ## Records -/

def memberText (f : String × List Char) : List Char := stringText f.1 ++ ':' :: f.2

theorem memberText_eq (key : String) (t : List Char) :
    memberText (key, t) = '"' :: (key.toList.flatMap escapedChar ++ '"' :: ':' :: t) :=
  stringText_append key _

theorem objectText_append (fields : List (String × List Char)) (rest : List Char) :
    objectText fields ++ rest =
      '\x7b' :: (remaining true (fields.map memberText) ++ '\x7d' :: rest) := by
  simp [objectText, remaining]
  rfl

/-- Where a record stands: each field either has a value, read or to fall back on, or its text is
due and will be read as this; and what the record will come to. -/
inductive Pending (depth : Nat) :
    (fs : List Field) → Slots fs → List (String × List Char) → Option (Values fs) → Prop
  | nil : Pending depth [] () [] (some ())
  | settled {f : Field} {fs : List Field} {slots : Slots fs} {ts : List (String × List Char)}
      {o : Option (Values fs)} {slot : Option f.α} {a : f.α} :
      (slot <|> f.fallback) = some a → Pending depth fs slots ts o →
      Pending depth (f :: fs) (slot, slots) ts (o.map fun vs => (a, vs))
  | due {f : Field} {fs : List Field} {slots : Slots fs} {ts : List (String × List Char)}
      {o : Option (Values fs)} {t : List Char} {b : Option f.α} : Makes depth f.read t b →
      Pending depth fs slots ts o →
      Pending depth (f :: fs) (none, slots) ((f.name, t) :: ts)
        (b.bind fun a => o.map fun vs => (a, vs))

namespace Pending

variable {depth : Nat} {fs : List Field} {slots : Slots fs} {ts : List (String × List Char)}
  {o : Option (Values fs)}

theorem name_mem (h : Pending depth fs slots ts o) : ∀ f ∈ ts, f.1 ∈ fs.map Field.name := by
  induction h with
  | nil => simp
  | settled _ _ ih => exact fun f hf => List.mem_cons_of_mem _ (ih f hf)
  | due _ _ ih =>
      intro f hf
      rcases List.mem_cons.mp hf with rfl | hf
      · exact List.mem_cons_self
      · exact List.mem_cons_of_mem _ (ih f hf)

/-- When nothing is due any more, the record is complete. -/
theorem complete (h : Pending depth fs slots [] o) :
    ∃ vs, o = some vs ∧ Record.complete fs slots = .ok vs := by
  generalize hts : ([] : List (String × List Char)) = pending at h
  induction h with
  | nil => exact ⟨(), rfl, rfl⟩
  | @settled _ _ _ _ _ _ a hvalue _ ih =>
      obtain ⟨vs, rfl, hvs⟩ := ih hts
      refine ⟨(a, vs), rfl, ?_⟩
      simp only [Record.complete, hvs, hvalue]
      rfl
  | due => cases hts

/-- The text that is due is read into its slot, or the record is refused and does not come
back. -/
theorem fill {levels : Nat} {key : String} {t more : List Char}
    (h : Pending depth fs slots ((key, t) :: ts) o) (hnodup : (fs.map Field.name).Nodup)
    (hlevels : depth ≤ levels) (hmore : Delimited more) (p : Place) :
    (o = none ∧ ∃ e, Record.fill levels key ⟨':' :: (t ++ more), p⟩ fs slots = .error e) ∨
      ∃ slots' p', Pending depth fs slots' ts o ∧
        Record.fill levels key ⟨':' :: (t ++ more), p⟩ fs slots =
          .ok (.filled slots' ⟨more, p'⟩) := by
  generalize hts : (key, t) :: ts = pending at h
  induction h with
  | nil => cases hts
  -- the key belongs to a later field, so the reader passes this one by
  | @settled f fs slots pending o slot a hvalue hrest ih =>
      obtain ⟨hfresh, hnodup⟩ := List.nodup_cons.mp hnodup
      have hkey : f.name ≠ key := by
        rintro rfl
        exact hfresh (hrest.name_mem _ (hts ▸ List.mem_cons_self))
      rcases ih hnodup hts with ⟨rfl, e, he⟩ | ⟨slots', p', hslots, hfill⟩
      · refine .inl ⟨rfl, e, ?_⟩
        simp only [Record.fill, if_neg hkey, he, bind, Except.bind]
      · refine .inr ⟨(slot, slots'), p', .settled hvalue hslots, ?_⟩
        simp only [Record.fill, if_neg hkey, hfill, bind, Except.bind, pure, Except.pure]
  | @due f fs slots pending o t' b hread hrest ih =>
      cases hts
      have hleaves := hread levels hlevels more hmore (p.after ':')
      generalize hreply : f.read levels ⟨t ++ more, p.after ':'⟩ = reply at hleaves
      cases hleaves with
      | failure e =>
          refine .inl ⟨rfl, e, ?_⟩
          simp only [Record.fill, if_true, Cursor.colon_cons, hreply, bind, Except.bind]
      | value a p' =>
          refine .inr ⟨(some a, slots), p', .settled rfl hrest, ?_⟩
          simp only [Record.fill, if_true, Cursor.colon_cons, hreply, bind, Except.bind, pure,
            Except.pure]

end Pending

namespace Cursor

theorem moreKeys_end (first : Bool) (rest : List Char) (p : Place) :
    moreKeys first ⟨'\x7d' :: rest, p⟩ = .ok (false, ⟨'\x7d' :: rest, p⟩) := by
  rw [moreKeys, skipBlanks_cons _ _ (by decide)]
  rfl

theorem moreKeys_remaining (first : Bool) (cs : List Char) (ts : List (List Char))
    (rest : List Char) (p : Place) :
    ∃ p', moreKeys first ⟨remaining first (('"' :: cs) :: ts) ++ rest, p⟩ =
      .ok (true, ⟨'"' :: (cs ++ (remaining false ts ++ rest)), p'⟩) := by
  cases first with
  | true =>
      refine ⟨p, ?_⟩
      rw [remaining_first, List.cons_append, List.cons_append, List.append_assoc, moreKeys,
        skipBlanks_cons _ _ (by decide)]
      rfl
  | false =>
      refine ⟨p.after ',', ?_⟩
      rw [remaining_later, List.cons_append, List.cons_append, List.cons_append, List.append_assoc,
        moreKeys, skipBlanks_cons _ _ (by decide)]
      rfl

end Cursor

namespace Record

/-- The members of an object are read one after the other until nothing is due, or one of them is
refused. -/
theorem readFields_pending {depth levels : Nat} {fs : List Field} {slots : Slots fs}
    {ts : List (String × List Char)} {o : Option (Values fs)}
    (h : Pending depth fs slots ts o) (hnodup : (fs.map Field.name).Nodup)
    (hlevels : depth ≤ levels) (fuel : Nat) (first : Bool) (rest : List Char) (p : Place) :
    (o = none ∧ ∃ e, readFields fs levels (ts.length + fuel + 1) first slots
        ⟨remaining first (ts.map memberText) ++ '\x7d' :: rest, p⟩ = .error e) ∨
      ∃ slots' p', Pending depth fs slots' [] o ∧
        readFields fs levels (ts.length + fuel + 1) first slots
          ⟨remaining first (ts.map memberText) ++ '\x7d' :: rest, p⟩ =
            .ok (slots', ⟨'\x7d' :: rest, p'⟩) := by
  induction ts generalizing slots first p with
  | nil =>
      refine .inr ⟨slots, p, h, ?_⟩
      rw [List.map_nil, remaining_nil, List.nil_append, readFields, Cursor.moreKeys_end]
      rfl
  | cons f ts ih =>
      obtain ⟨key, t⟩ := f
      have hmore := remaining_delimited (.inr rfl) (ts.map memberText) rest
      obtain ⟨p₁, hkeys⟩ := Cursor.moreKeys_remaining first
        (key.toList.flatMap escapedChar ++ '"' :: ':' :: t) (ts.map memberText) ('\x7d' :: rest) p
      obtain ⟨p₂, hstring⟩ := Cursor.string_stringText key
        (':' :: (t ++ (remaining false (ts.map memberText) ++ '\x7d' :: rest))) (p₁.after '"')
      rw [List.map_cons, memberText_eq, List.length_cons,
        show ts.length + 1 + fuel + 1 = (ts.length + fuel + 1) + 1 by omega, readFields, hkeys]
      simp only [List.append_assoc, List.cons_append, Cursor.advance_cons, bind, Except.bind,
        if_true, hstring]
      rcases h.fill hnodup hlevels hmore p₂ with ⟨ho, e, he⟩ | ⟨slots', p₃, hslots, hfill⟩
      · exact .inl ⟨ho, e, by rw [he]⟩
      · rw [hfill]
        exact ih hslots false p₃

/-- A record comes to what its fields come to. -/
theorem read_makes (r : Record ρ) (a : ρ) {depth : Nat} {o : Option (Values r.fields)}
    (hnodup : (r.fields.map Field.name).Nodup)
    (h : Pending depth r.fields (noSlots r.fields) (fieldTexts r.fields (r.toValues a)) o) :
    Makes (depth + 1) r.read (r.text a) (o.map r.ofValues) := by
  intro levels hlevels rest _ p
  obtain ⟨levels, rfl⟩ := Nat.exists_eq_add_of_le' (Nat.le_of_add_left_le hlevels)
  have hwritten : ∀ t ∈ (fieldTexts r.fields (r.toValues a)).map memberText, t ≠ [] := by
    intro t ht
    obtain ⟨⟨key, value⟩, -, rfl⟩ := List.mem_map.mp ht
    rw [memberText_eq]
    exact List.cons_ne_nil _ _
  obtain ⟨fuel, hfuel⟩ := exists_fuel hwritten ('\x7d' :: rest)
  rw [List.length_map] at hfuel
  have hfields := readFields_pending h hnodup (Nat.le_of_add_le_add_right hlevels) fuel true rest
    (p.after '\x7b')
  rw [Record.text, objectText_append, Record.read, Cursor.skipBlanks_cons _ _ (by decide)]
  dsimp only [Cursor.nested, Cursor.advance_cons]
  rw [readObject, hfuel]
  rcases hfields with ⟨rfl, e, he⟩ | ⟨slots, p', hslots, hread⟩
  · rw [he]
    exact .failure e
  · obtain ⟨vs, rfl, hvs⟩ := hslots.complete
    rw [hread]
    simp only [bind, Except.bind, hvs, Cursor.advance_cons]
    exact .value _ _

theorem text_opens (r : Record ρ) (a : ρ) : Opens (r.text a) :=
  ⟨'\x7b', _, rfl, rfl, by decide⟩

end Record

end Crossover.Json
