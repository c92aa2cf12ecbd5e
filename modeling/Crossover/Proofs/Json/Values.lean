import Crossover.Proofs.Json.Exact

/-!
# Values are read exactly

The first character of a value tells its kind, so the reader finds the form in which a text
spells a value; lists and objects follow by induction on the levels of brackets. Hence a whole
text is read as a list of lists just if it is the text of one.
-/

namespace Crossover.Json

variable {α : Type} {spells : α → List Char → Prop}

theorem SpellsNumber.opens {n : Number} {t : List Char} (h : SpellsNumber n t) :
    ∃ c cs, t = c :: cs ∧ (c = '-' ∨ c.isDigit = true) := by
  obtain ⟨⟨hsign, hwhole, _, _⟩, _⟩ := h
  cases hsign with
  | minus => exact ⟨'-', _, rfl, .inl rfl⟩
  | none =>
      cases hwhole with
      | zero => exact ⟨'0', _, rfl, .inr rfl⟩
      | digits hdigits => exact ⟨_, _, rfl, .inr (hdigits _ List.mem_cons_self)⟩

theorem ne_of_isDigit {c d : Char} (h : c = '-' ∨ c.isDigit = true) (hd : d ≠ '-')
    (hd' : d.isDigit = false) : c ≠ d := by
  rintro rfl
  rcases h with h | h
  · exact hd h
  · exact Bool.false_ne_true (hd'.symm.trans h)

theorem SpellsScalar.opens {v : Value} {t : List Char} (h : SpellsScalar v t) : Opens t := by
  cases h with
  | null => exact ⟨'n', _, rfl, rfl, by decide⟩
  | true => exact ⟨'t', _, rfl, rfl, by decide⟩
  | false => exact ⟨'f', _, rfl, rfl, by decide⟩
  | number hnumber =>
      obtain ⟨c, cs, rfl, hc⟩ := hnumber.opens
      refine ⟨c, cs, rfl, ?_, ne_of_isDigit hc (by decide) rfl⟩
      rcases hc with rfl | hc
      · rfl
      · exact not_blank_of_isDigit hc
  | string hstring =>
      obtain ⟨_⟩ := hstring
      exact ⟨'"', _, rfl, rfl, by decide⟩

theorem SpellsOver.opens {spells : Value → List Char → Prop} {v : Value} {t : List Char}
    (h : SpellsOver spells v t) : Opens t := by
  cases h with
  | list hlist => exact hlist.opens
  | object hobject =>
      obtain ⟨_⟩ := hobject
      exact ⟨'\x7b', _, rfl, rfl, by decide⟩

theorem Spells.scalar {v : Value} {t : List Char} (h : SpellsScalar v t) (levels : Nat) :
    Spells levels v t := by
  cases levels with
  | zero => exact h
  | succ levels => exact .inl h

theorem Spells.opens {levels : Nat} {v : Value} {t : List Char} (h : Spells levels v t) :
    Opens t := by
  cases levels with
  | zero => exact SpellsScalar.opens h
  | succ levels => exact h.elim SpellsScalar.opens SpellsOver.opens

namespace Value

theorem word_value {letters rest : List Char} {ch : Char} {c c' : Cursor} {v w : Value}
    (hrest : c.rest = ch :: rest)
    (h : (Cursor.word letters c.advance >>= fun c => pure (w, c)) = .ok (v, c')) :
    v = w ∧ ch :: rest = ch :: letters ++ c'.rest := by
  obtain ⟨c₁, hword, h⟩ := bind_eq_ok h
  cases h
  have hmore := Cursor.word_sound hword
  rw [Cursor.rest_advance hrest] at hmore
  exact ⟨rfl, by rw [hmore, List.cons_append]⟩

theorem go_sound {levels : Nat}
    (ih : ∀ below, levels = below + 1 → Exact (Spells below) (read.go below)) {c c' : Cursor}
    {v : Value} (h : read.go levels c = .ok (v, c')) :
    ∃ gap t, Gap gap ∧ Spells levels v t ∧ c.rest = gap ++ (t ++ c'.rest) := by
  obtain ⟨gap, hgap, hrest⟩ := Cursor.exists_gap c
  -- what is read from the first character on decides, the blanks before it are the gap
  suffices ∃ t, Spells levels v t ∧ c.skipBlanks.rest = t ++ c'.rest by
    obtain ⟨t, ht, hskip⟩ := this
    exact ⟨gap, t, hgap, ht, hskip ▸ hrest⟩
  rw [read.go.eq_def] at h
  dsimp only at h
  split at h
  · cases h
  · next ch rest hskip =>
    have hadvance := Cursor.rest_advance hskip
    rw [hskip]
    split at h
    · next hch =>
      obtain ⟨rfl, hmore⟩ := word_value hskip h
      exact ⟨_, .scalar .null levels, hch ▸ hmore⟩
    split at h
    · next hch =>
      obtain ⟨rfl, hmore⟩ := word_value hskip h
      exact ⟨_, .scalar .true levels, hch ▸ hmore⟩
    split at h
    · next hch =>
      obtain ⟨rfl, hmore⟩ := word_value hskip h
      exact ⟨_, .scalar .false levels, hch ▸ hmore⟩
    split at h
    · obtain ⟨⟨n, c₁⟩, hnumber, h⟩ := bind_eq_ok h
      cases h
      obtain ⟨t, ht, hmore⟩ := Cursor.number_sound hnumber
      exact ⟨t, .scalar (.number ht) levels, hskip ▸ hmore⟩
    split at h
    · next hch =>
      obtain ⟨⟨s, c₁⟩, hstring, h⟩ := bind_eq_ok h
      cases h
      obtain ⟨t, ht, hmore⟩ := Cursor.string_sound hstring
      rw [hadvance] at hmore
      exact ⟨'"' :: t, .scalar (.string ht) levels, by rw [hch, hmore]; rfl⟩
    split at h
    · next hch =>
      split at h
      · cases h
      · next below =>
        obtain ⟨⟨vs, c₁⟩, hlist, h⟩ := bind_eq_ok h
        cases h
        obtain ⟨t, ht, hmore⟩ := Cursor.bracketed_sound (ih below rfl) hlist
        rw [hadvance] at hmore
        exact ⟨'[' :: t, .inr (.list ht), by rw [hch, hmore]; rfl⟩
    split at h
    · next hch =>
      split at h
      · cases h
      · next below =>
        obtain ⟨⟨fields, c₁⟩, hobject, h⟩ := bind_eq_ok h
        cases h
        obtain ⟨t, ht, hmore⟩ := Cursor.braced_sound (ih below rfl) hobject
        rw [hadvance] at hmore
        exact ⟨'\x7b' :: t, .inr (.object ht), by rw [hch, hmore]; rfl⟩
    · cases h

theorem go_gap {gap t : List Char} (hgap : Gap gap) (ht : Opens t) (levels : Nat)
    (rest : List Char) (p : Place) :
    ∃ p', read.go levels ⟨gap ++ (t ++ rest), p⟩ = read.go levels ⟨t ++ rest, p'⟩ := by
  obtain ⟨c, cs, rfl, hblank, -⟩ := ht
  obtain ⟨p', hskip⟩ := Cursor.skipBlanks_append hgap hblank (cs ++ rest) p
  refine ⟨p', ?_⟩
  rw [read.go.eq_def, read.go.eq_def levels ⟨c :: cs ++ rest, p'⟩]
  dsimp only
  rw [List.cons_append, hskip, Cursor.skipBlanks_cons _ _ hblank]

theorem go_number {n : Number} {t rest : List Char} (h : SpellsNumber n t)
    (hrest : Cursor.Ends rest) (levels : Nat) (p : Place) :
    ∃ p', read.go levels ⟨t ++ rest, p⟩ = .ok (.number n, ⟨rest, p'⟩) := by
  obtain ⟨c, cs, rfl, hc⟩ := h.opens
  obtain ⟨_, _, hcons, hblank, -⟩ := SpellsScalar.opens (.number h)
  rw [← (List.cons.inj hcons).1] at hblank
  obtain ⟨p', hread⟩ := Cursor.number_complete h hrest p
  refine ⟨p', ?_⟩
  have hn : c ≠ 'n' := ne_of_isDigit hc (by decide) rfl
  have ht : c ≠ 't' := ne_of_isDigit hc (by decide) rfl
  have hf : c ≠ 'f' := ne_of_isDigit hc (by decide) rfl
  rw [List.cons_append] at hread
  rw [read.go.eq_def, List.cons_append]
  dsimp only
  rw [Cursor.skipBlanks_cons _ _ hblank]
  dsimp only
  rw [if_neg hn, if_neg ht, if_neg hf, if_pos hc, hread]
  rfl

theorem go_scalar {v : Value} {t rest : List Char} (h : SpellsScalar v t)
    (hrest : Cursor.Ends rest) (levels : Nat) (p : Place) :
    ∃ p', read.go levels ⟨t ++ rest, p⟩ = .ok (v, ⟨rest, p'⟩) := by
  cases h with
  | null =>
      rw [read.go.eq_def]
      exact ⟨_, rfl⟩
  | true =>
      rw [read.go.eq_def]
      exact ⟨_, rfl⟩
  | false =>
      rw [read.go.eq_def]
      exact ⟨_, rfl⟩
  | number hnumber => exact go_number hnumber hrest levels p
  | string hstring =>
      obtain @⟨t, hchars⟩ := hstring
      obtain ⟨p', hread⟩ := Cursor.string_complete (.quoted hchars) rest (p.after '"')
      refine ⟨p', ?_⟩
      rw [read.go.eq_def]
      change (Cursor.string ⟨t ++ ['"'] ++ rest, p.after '"'⟩ >>= fun r =>
        pure (Value.string r.1, r.2)) = _
      rw [hread]
      rfl

theorem go_over {below : Nat} (h : Exact (Spells below) (read.go below)) {v : Value}
    {t : List Char} (ht : SpellsOver (Spells below) v t) (rest : List Char) (p : Place) :
    ∃ p', read.go (below + 1) ⟨t ++ rest, p⟩ = .ok (v, ⟨rest, p'⟩) := by
  cases ht with
  | @list vs _ hlist =>
      obtain @⟨t, helements⟩ := hlist
      have hfuel : (t ++ [']'] ++ rest).length < ('[' :: (t ++ [']'] ++ rest)).length + 1 :=
        Nat.lt_succ_of_lt (Nat.lt_succ_self _)
      obtain ⟨p', hread⟩ := Cursor.bracketed_complete h (.brackets helements) hfuel (p.after '[')
      refine ⟨p', ?_⟩
      rw [read.go.eq_def]
      change (Cursor.elements (read.go below) (('[' :: (t ++ [']'] ++ rest)).length + 1) true []
        ⟨t ++ [']'] ++ rest, p.after '['⟩ >>= fun r => pure (Value.list r.1, r.2)) = _
      rw [hread]
      rfl
  | @object fields _ hobject =>
      obtain @⟨t, helements⟩ := hobject
      have hfuel : (t ++ ['\x7d'] ++ rest).length <
          ('\x7b' :: (t ++ ['\x7d'] ++ rest)).length + 1 :=
        Nat.lt_succ_of_lt (Nat.lt_succ_self _)
      obtain ⟨p', hread⟩ := Cursor.braced_complete h (.braces helements) hfuel (p.after '\x7b')
      refine ⟨p', ?_⟩
      rw [read.go.eq_def]
      change (Cursor.members (read.go below) (('\x7b' :: (t ++ ['\x7d'] ++ rest)).length + 1) true []
        ⟨t ++ ['\x7d'] ++ rest, p.after '\x7b'⟩ >>= fun r =>
          pure (Value.object (sortFields r.1.reverse), r.2)) = _
      rw [hread]
      simp only [bind, Except.bind, List.reverse_reverse, pure, Except.pure]

/-- Values are read exactly, up to each number of levels. -/
theorem go_exact (levels : Nat) : Exact (Spells levels) (read.go levels) := by
  induction levels with
  | zero =>
      refine ⟨go_sound ?_, ?_, Spells.opens⟩
      · intro below hbelow
        cases hbelow
      · intro gap t rest v hgap ht hrest p
        obtain ⟨p₁, hgo⟩ := go_gap hgap (Spells.opens ht) 0 rest p
        rw [hgo]
        exact go_scalar ht hrest 0 p₁
  | succ levels ih =>
      refine ⟨go_sound ?_, ?_, Spells.opens⟩
      · intro below hbelow
        cases hbelow
        exact ih
      · intro gap t rest v hgap ht hrest p
        obtain ⟨p₁, hgo⟩ := go_gap hgap (Spells.opens ht) (levels + 1) rest p
        rw [hgo]
        cases ht with
        | inl hscalar => exact go_scalar hscalar hrest (levels + 1) p₁
        | inr hover => exact go_over ih hover rest p₁

end Value

/-! ## Whole texts -/

theorem finish_eq_ok_iff (c : Cursor) : c.finish = .ok () ↔ Gap c.rest := by
  obtain ⟨gap, hgap, hrest⟩ := c.exists_gap
  unfold Cursor.finish
  dsimp only
  constructor
  · intro h
    split at h
    · next hend =>
      rw [hrest, List.isEmpty_iff.mp hend, List.append_nil]
      exact hgap
    · cases h
  · intro h
    have hskip := Cursor.skipBlanks_gap h [] c.place
    rw [List.append_nil] at hskip
    rw [hskip]
    rfl

theorem Exact.run_eq_ok_iff {r : Reader α} (h : Exact spells (r allLevels)) (text : List Char)
    (a : α) : r.run text = .ok a ↔
      ∃ before t after, Gap before ∧ spells a t ∧ Gap after ∧ text = before ++ (t ++ after) := by
  constructor
  · intro hrun
    obtain ⟨⟨b, c⟩, hread, hrun⟩ := bind_eq_ok hrun
    obtain ⟨_, hfinish, hrun⟩ := bind_eq_ok hrun
    cases hrun
    obtain ⟨before, t, hbefore, ht, htext⟩ := h.sound hread
    exact ⟨before, t, c.rest, hbefore, ht, (finish_eq_ok_iff c).mp hfinish, htext⟩
  · rintro ⟨before, t, after, hbefore, ht, hafter, rfl⟩
    have hends : Cursor.Ends after := fun c hc => .inl (hafter c (List.mem_of_mem_head? hc))
    obtain ⟨p, hread⟩ := h.complete hbefore ht hends ⟨1, 0⟩
    rw [Reader.run, Cursor.start, hread]
    simp only [bind, Except.bind, (finish_eq_ok_iff ⟨after, p⟩).mpr hafter, pure, Except.pure]

theorem Elements.of_written {write : α → List Char} {as : List α}
    (h : ∀ a ∈ as, spells a (write a)) (first : Bool) :
    Elements spells first as (remaining first (as.map write)) := by
  induction as generalizing first with
  | nil =>
      rw [List.map_nil, remaining_nil]
      exact .nil .nil
  | cons a as ih =>
      have ha := h a List.mem_cons_self
      have has := ih (fun b hb => h b (List.mem_cons_of_mem a hb)) false
      rw [List.map_cons]
      cases first with
      | true =>
          rw [remaining_first]
          exact .cons (.first .nil) ha has
      | false =>
          rw [remaining_later]
          exact .cons (.later .nil .nil) ha has

/-- A list of written elements is in the grammar if the elements are. -/
theorem SpellsList.of_written {write : α → List Char} {as : List α}
    (h : ∀ a ∈ as, spells a (write a)) : SpellsList spells as (listText (as.map write)) :=
  .brackets (.of_written h true)

theorem Elements.map_iff {β : Type} {spells : β → List Char → Prop} (f : α → β) {first : Bool}
    {as : List α} {t : List Char} :
    Elements spells first (as.map f) t ↔ Elements (fun a => spells (f a)) first as t := by
  constructor
  · intro h
    generalize hbs : as.map f = bs at h
    induction h generalizing as with
    | nil hgap =>
        rw [List.map_eq_nil_iff.mp hbs]
        exact .nil hgap
    | cons hlead hspells _ ih =>
        obtain ⟨a, as, rfl, rfl, rfl⟩ := List.map_eq_cons_iff.mp hbs
        exact .cons hlead hspells (ih rfl)
  · intro h
    induction h with
    | nil hgap => exact .nil hgap
    | cons hlead hspells _ ih => exact .cons hlead hspells ih

theorem SpellsList.map_iff {β : Type} {spells : β → List Char → Prop} (f : α → β) {as : List α}
    {t : List Char} : SpellsList spells (as.map f) t ↔ SpellsList (fun a => spells (f a)) as t := by
  constructor
  · rintro ⟨h⟩
    exact ⟨(Elements.map_iff f).mp h⟩
  · rintro ⟨h⟩
    exact ⟨(Elements.map_iff f).mpr h⟩

theorem spells_list_iff (levels : Nat) (vs : List Value) (t : List Char) :
    Spells (levels + 1) (.list vs) t ↔ SpellsList (Spells levels) vs t := by
  constructor
  · rintro (hscalar | hover)
    · cases hscalar
    · cases hover with
      | list h => exact h
  · exact fun h => .inr (.list h)

/-- A text is read as a list of lists just if it is the text of one. -/
theorem run_lists_eq_ok_iff (rows : List (List Value)) (text : List Char) :
    (Reader.list (Reader.list Value.read)).run text = .ok rows ↔
      IsText (.list (rows.map .list)) text := by
  have hexact : Exact (SpellsList (SpellsList (Spells 125)))
      (Reader.list (Reader.list Value.read) allLevels) :=
    Reader.list_exact (Reader.list_exact (Value.go_exact 125))
  have hrow : (fun vs => Spells 126 (.list vs)) = SpellsList (Spells 125) :=
    funext fun vs => funext fun t => propext (spells_list_iff 125 vs t)
  have hspells (t : List Char) : Spells allLevels (.list (rows.map .list)) t ↔
      SpellsList (SpellsList (Spells 125)) rows t := by
    rw [allLevels, spells_list_iff, SpellsList.map_iff, hrow]
  rw [hexact.run_eq_ok_iff]
  constructor
  · rintro ⟨before, t, after, hbefore, ht, hafter, rfl⟩
    exact .padded hbefore ((hspells t).mpr ht) hafter
  · rintro ⟨hbefore, ht, hafter⟩
    exact ⟨_, _, _, hbefore, (hspells _).mp ht, hafter, rfl⟩

end Crossover.Json
