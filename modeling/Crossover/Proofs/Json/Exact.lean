import Crossover.Proofs.Json.Numbers
import Crossover.Proofs.Json.Records

/-!
# Lists and objects are read exactly

A reader is exact for a kind of text if it reads what such a text spells, up to the end of the
text, and reads nothing else. Exactness goes from the elements to the list and the object: each
step of the reader passes what leads to an element, or finds the closing mark.
-/

namespace Crossover.Json

variable {α : Type}

theorem Gap.nil : Gap [] := by
  intro c hc
  cases hc

theorem Gap.append {gap gap' : List Char} (h : Gap gap) (h' : Gap gap') : Gap (gap ++ gap') := by
  intro c hc
  exact (List.mem_append.mp hc).elim (h c) (h' c)

namespace Cursor

theorem skipBlanks_gap {gap : List Char} (h : Gap gap) (rest : List Char) (p : Place) :
    (⟨gap ++ rest, p⟩ : Cursor).skipBlanks =
      (⟨rest, gap.foldl Place.after p⟩ : Cursor).skipBlanks := by
  induction gap generalizing p with
  | nil => rfl
  | cons c gap ih =>
      have hc : isBlank c = true := h c List.mem_cons_self
      have hgap := ih (fun d hd => h d (List.mem_cons_of_mem c hd)) (p.after c)
      rw [List.foldl_cons, ← hgap]
      simp [skipBlanks, skipBlanks.go, hc]

theorem skipBlanks_append {gap : List Char} {c : Char} (h : Gap gap) (hc : isBlank c = false)
    (rest : List Char) (p : Place) :
    ∃ p', (⟨gap ++ c :: rest, p⟩ : Cursor).skipBlanks = ⟨c :: rest, p'⟩ :=
  ⟨_, (skipBlanks_gap h _ p).trans (skipBlanks_cons rest _ hc)⟩

theorem exists_gap (c : Cursor) : ∃ gap, Gap gap ∧ c.rest = gap ++ c.skipBlanks.rest := by
  obtain ⟨cs, p⟩ := c
  induction cs generalizing p with
  | nil => exact ⟨[], .nil, rfl⟩
  | cons c cs ih =>
      by_cases hc : isBlank c = true
      · obtain ⟨gap, hgap, hrest⟩ := ih (p.after c)
        have hskip :
            (⟨c :: cs, p⟩ : Cursor).skipBlanks = (⟨cs, p.after c⟩ : Cursor).skipBlanks := by
          simp [skipBlanks, skipBlanks.go, hc]
        refine ⟨c :: gap, fun d hd => ?_, ?_⟩
        · rcases List.mem_cons.mp hd with rfl | hd
          · exact hc
          · exact hgap d hd
        · rw [hskip, List.cons_append, ← hrest]
      · refine ⟨[], .nil, ?_⟩
        rw [skipBlanks_cons cs p (Bool.eq_false_iff.mpr hc), List.nil_append]

theorem word_sound {letters : List Char} {c c' : Cursor} (h : word letters c = .ok c') :
    c.rest = letters ++ c'.rest := by
  induction letters generalizing c with
  | nil =>
      cases h
      rfl
  | cons l letters ih =>
      unfold word at h
      split at h
      · cases h
      · next ch rest hrest =>
        split at h
        · next hl =>
          have hmore := ih h
          rw [rest_advance hrest] at hmore
          rw [hrest, hl, hmore, List.cons_append]
        · cases h

/-! ## What leads to an element -/

/-- The text goes on with another element, or with the closing mark. -/
inductive Next (close : Char) (first : Bool) (cs : List Char) : (more : Bool) → List Char → Prop
  | more {lead rest : List Char} : Lead first lead → cs = lead ++ rest →
      Next close first cs true rest
  | closed {gap rest : List Char} : Gap gap → cs = gap ++ close :: rest →
      Next close first cs false (close :: rest)

theorem Next.after_comma {close : Char} {c : Cursor} {before rest : List Char}
    (hbefore : Gap before) (hrest : c.rest = ',' :: rest) :
    Next close false (before ++ c.rest) true c.advance.skipBlanks.rest := by
  obtain ⟨gap, hgap, hmore⟩ := exists_gap c.advance
  rw [rest_advance hrest] at hmore
  refine .more (.later hbefore hgap) ?_
  rw [hrest, hmore, List.append_assoc, List.cons_append]

theorem moreElements_sound {first more : Bool} {c c' : Cursor}
    (h : moreElements first c = .ok (more, c')) : Next ']' first c.rest more c'.rest := by
  obtain ⟨before, hbefore, hrest⟩ := exists_gap c
  rw [hrest]
  unfold moreElements at h
  dsimp only at h
  split at h
  · cases h
  · next ch rest hskip =>
    split at h
    · next hclose =>
      cases h
      rw [hskip, hclose]
      exact .closed hbefore rfl
    · cases first with
      | true =>
          cases h
          exact .more (.first hbefore) rfl
      | false =>
          split at h
          · next hcontra => cases hcontra
          split at h
          · next hcomma =>
            split at h
            · cases h
            · split at h
              · cases h
              · cases h
                exact .after_comma hbefore (hcomma ▸ hskip)
          · cases h

theorem moreKeys_sound {first more : Bool} {c c' : Cursor}
    (h : moreKeys first c = .ok (more, c')) :
    Next '\x7d' first c.rest more c'.rest ∧ (more = true → ∃ rest, c'.rest = '"' :: rest) := by
  obtain ⟨before, hbefore, hrest⟩ := exists_gap c
  rw [hrest]
  unfold moreKeys at h
  dsimp only at h
  split at h
  · cases h
  · next ch rest hskip =>
    split at h
    · next hclose =>
      cases h
      rw [hskip, hclose]
      exact ⟨.closed hbefore rfl, fun hmore => (Bool.false_ne_true hmore).elim⟩
    · cases first with
      | true =>
          split at h
          · split at h
            · next hquote =>
              cases h
              exact ⟨.more (.first hbefore) rfl, fun _ => ⟨rest, hquote ▸ hskip⟩⟩
            · cases h
          · next hcontra => exact absurd rfl hcontra
      | false =>
          split at h
          · next hcontra => cases hcontra
          split at h
          · next hcomma =>
            split at h
            · cases h
            · next rest' hnext =>
              split at h
              · next hquote =>
                cases h
                exact ⟨.after_comma hbefore (hcomma ▸ hskip), fun _ => ⟨rest', hquote ▸ hnext⟩⟩
              · split at h
                · cases h
                · cases h
          · cases h

theorem moreElements_next {first : Bool} {lead t : List Char} (h : Lead first lead) (ht : Opens t)
    (rest : List Char) (p : Place) :
    ∃ p', moreElements first ⟨lead ++ (t ++ rest), p⟩ = .ok (true, ⟨t ++ rest, p'⟩) := by
  obtain ⟨c, cs, rfl, hblank, hclose⟩ := ht
  rw [List.cons_append]
  cases h with
  | first hgap =>
      obtain ⟨p', hskip⟩ := skipBlanks_append hgap hblank (cs ++ rest) p
      refine ⟨p', ?_⟩
      simp only [moreElements, hskip, if_neg hclose, if_true]
  | @later before gap hbefore hgap =>
      obtain ⟨p₁, hskip⟩ := skipBlanks_append (c := ',') hbefore rfl (gap ++ c :: (cs ++ rest)) p
      obtain ⟨p₂, hskip'⟩ := skipBlanks_append hgap hblank (cs ++ rest) (p₁.after ',')
      refine ⟨p₂, ?_⟩
      have hcomma : ¬ ',' = ']' := by decide
      rw [List.append_assoc, List.cons_append]
      simp only [moreElements, hskip, if_neg hcomma, if_true, advance_cons, hskip', if_neg hclose,
        Bool.false_eq_true, if_false]

theorem moreElements_close {gap : List Char} (h : Gap gap) (first : Bool) (rest : List Char)
    (p : Place) :
    ∃ p', moreElements first ⟨gap ++ ']' :: rest, p⟩ = .ok (false, ⟨']' :: rest, p'⟩) := by
  obtain ⟨p', hskip⟩ := skipBlanks_append (c := ']') h rfl rest p
  refine ⟨p', ?_⟩
  simp only [moreElements, hskip, if_true]

theorem moreKeys_next {first : Bool} {lead : List Char} (h : Lead first lead) (rest : List Char)
    (p : Place) :
    ∃ p', moreKeys first ⟨lead ++ '"' :: rest, p⟩ = .ok (true, ⟨'"' :: rest, p'⟩) := by
  have hquote : ¬ '"' = '\x7d' := by decide
  cases h with
  | first hgap =>
      obtain ⟨p', hskip⟩ := skipBlanks_append (c := '"') hgap rfl rest p
      refine ⟨p', ?_⟩
      simp only [moreKeys, hskip, if_neg hquote, if_true]
  | @later before gap hbefore hgap =>
      obtain ⟨p₁, hskip⟩ := skipBlanks_append (c := ',') hbefore rfl (gap ++ '"' :: rest) p
      obtain ⟨p₂, hskip'⟩ := skipBlanks_append (c := '"') hgap rfl rest (p₁.after ',')
      refine ⟨p₂, ?_⟩
      have hcomma : ¬ ',' = '\x7d' := by decide
      rw [List.append_assoc, List.cons_append]
      simp only [moreKeys, hskip, if_neg hcomma, if_true, advance_cons, hskip',
        Bool.false_eq_true, if_false]

theorem moreKeys_close {gap : List Char} (h : Gap gap) (first : Bool) (rest : List Char)
    (p : Place) :
    ∃ p', moreKeys first ⟨gap ++ '\x7d' :: rest, p⟩ = .ok (false, ⟨'\x7d' :: rest, p'⟩) := by
  obtain ⟨p', hskip⟩ := skipBlanks_append (c := '\x7d') h rfl rest p
  refine ⟨p', ?_⟩
  simp only [moreKeys, hskip, if_true]

end Cursor

/-! ## Lists and objects -/

/-- The reader reads what such a text spells, up to its end, and reads nothing else. -/
structure Exact (spells : α → List Char → Prop) (r : Cursor → Except Error (α × Cursor)) :
    Prop where
  sound {c c' : Cursor} {a : α} : r c = .ok (a, c') →
    ∃ gap t, Gap gap ∧ spells a t ∧ c.rest = gap ++ (t ++ c'.rest)
  complete {gap t rest : List Char} {a : α} : Gap gap → spells a t → Cursor.Ends rest →
    ∀ p, ∃ p', r ⟨gap ++ (t ++ rest), p⟩ = .ok (a, ⟨rest, p'⟩)
  opens {a : α} {t : List Char} : spells a t → Opens t

variable {spells : α → List Char → Prop} {r : Cursor → Except Error (α × Cursor)}

theorem Lead.append {first : Bool} {lead gap : List Char} (h : Lead first lead) (h' : Gap gap) :
    Lead first (lead ++ gap) := by
  cases h with
  | first hgap => exact .first (hgap.append h')
  | later hbefore hgap =>
      rw [List.append_assoc, List.cons_append]
      exact .later hbefore (hgap.append h')

theorem Cursor.Ends.of_gap {gap rest : List Char} (h : Gap gap) (hrest : Ends rest) :
    Ends (gap ++ rest) := by
  cases gap with
  | nil => exact hrest
  | cons c gap =>
      intro d hd
      cases hd
      exact .inl (h c List.mem_cons_self)

theorem Elements.ends {as : List α} {t rest : List Char} (h : Elements spells false as t)
    (hrest : Cursor.Ends rest) : Cursor.Ends (t ++ rest) := by
  cases h with
  | nil hgap => exact .of_gap hgap hrest
  | cons hlead =>
      obtain _ | ⟨hbefore, _⟩ := hlead
      simp only [List.append_assoc, List.cons_append]
      apply Cursor.Ends.of_gap hbefore
      intro c hc
      cases hc
      exact .inr (.inl rfl)

theorem Elements.length_le {first : Bool} {as : List α} {t : List Char}
    (h : Elements spells first as t) (hopens : ∀ {a t}, spells a t → t ≠ []) :
    as.length ≤ t.length := by
  induction h with
  | nil => exact Nat.zero_le _
  | cons _ hspells _ ih =>
      have hpos := List.length_pos_iff.mpr (hopens hspells)
      simp only [List.length_cons, List.length_append]
      omega

theorem Exact.ne_nil (h : Exact spells r) {a : α} {t : List Char} (ht : spells a t) : t ≠ [] := by
  obtain ⟨c, cs, rfl, _⟩ := h.opens ht
  exact List.cons_ne_nil c cs

namespace Cursor

theorem elements_sound (h : Exact spells r) {fuel : Nat} {first : Bool} {read as : List α}
    {c c' : Cursor} (hread : elements r fuel first read c = .ok (as, c')) :
    ∃ new t, Elements spells first new t ∧ as = read.reverse ++ new ∧
      c.rest = t ++ ']' :: c'.rest := by
  induction fuel generalizing first read c with
  | zero => cases hread
  | succ fuel ih =>
      obtain ⟨⟨more, c₁⟩, hmore, hread⟩ := bind_eq_ok hread
      have hnext := moreElements_sound hmore
      cases more with
      | true =>
          obtain ⟨hlead, hrest⟩ := hnext
          obtain ⟨⟨a, c₂⟩, hitem, hread⟩ := bind_eq_ok hread
          obtain ⟨gap, t, hgap, hspells, ht⟩ := h.sound hitem
          obtain ⟨new, u, hnew, rfl, hu⟩ := ih hread
          refine ⟨a :: new, _, .cons (hlead.append hgap) hspells hnew, by simp, ?_⟩
          rw [hrest, ht, hu]
          simp
      | false =>
          obtain ⟨c₂, hclose, hread⟩ := bind_eq_ok hread
          cases hread
          generalize hcs : c₁.rest = cs at hnext
          cases hnext with
          | @closed gap rest hgap hrest =>
              obtain ⟨cs, p⟩ := c₁
              subst hcs
              rw [closeList_end] at hclose
              cases hclose
              exact ⟨[], gap, .nil hgap, by simp, hrest⟩

theorem elements_complete (h : Exact spells r) {first : Bool} {as : List α} {t : List Char}
    (ht : Elements spells first as t) (fuel : Nat) (read : List α) (rest : List Char) (p : Place) :
    ∃ p', elements r (as.length + fuel + 1) first read ⟨t ++ ']' :: rest, p⟩ =
      .ok (read.reverse ++ as, ⟨rest, p'⟩) := by
  induction ht generalizing read p with
  | @nil first gap hgap =>
      obtain ⟨p', hmore⟩ := moreElements_close hgap first rest p
      refine ⟨p'.after ']', ?_⟩
      rw [elements, hmore, List.append_nil]
      simp only [bind, Except.bind, Bool.false_eq_true, if_false, closeList_end, pure, Except.pure]
  | @cons first a as lead t more hlead hspells hmore ih =>
      have hend : Ends (']' :: rest) := by
        intro d hd
        cases hd
        exact .inr (.inr (.inl rfl))
      obtain ⟨p₁, hnext⟩ := moreElements_next hlead (h.opens hspells) (more ++ ']' :: rest) p
      obtain ⟨p₂, hitem⟩ := h.complete .nil hspells (hmore.ends hend) p₁
      obtain ⟨p₃, hread⟩ := ih (a :: read) p₂
      refine ⟨p₃, ?_⟩
      rw [List.length_cons, show as.length + 1 + fuel + 1 = (as.length + fuel + 1) + 1 by omega,
        elements]
      rw [List.nil_append] at hitem
      simp only [List.append_assoc, hnext, bind, Except.bind, if_true, hitem, hread]
      simp

theorem colon_sound {c c' : Cursor} (h : colon c = .ok c') :
    ∃ gap, Gap gap ∧ c.rest = gap ++ ':' :: c'.rest := by
  obtain ⟨gap, hgap, hrest⟩ := exists_gap c
  unfold colon at h
  dsimp only at h
  split at h
  · cases h
  · next ch rest hskip =>
    split at h
    · next hcolon =>
      cases h
      refine ⟨gap, hgap, ?_⟩
      rw [hrest, rest_advance hskip, hskip, hcolon]
    · cases h

theorem colon_complete {gap : List Char} (h : Gap gap) (rest : List Char) (p : Place) :
    ∃ p', colon ⟨gap ++ ':' :: rest, p⟩ = .ok ⟨rest, p'⟩ := by
  obtain ⟨p', hskip⟩ := skipBlanks_append (c := ':') h rfl rest p
  refine ⟨p'.after ':', ?_⟩
  rw [colon, hskip]
  rfl

theorem members_sound (h : Exact spells r) {fuel : Nat} {first : Bool}
    {read fields : List (String × α)} {c c' : Cursor}
    (hread : members r fuel first read c = .ok (fields, c')) :
    ∃ new t, Elements (SpellsMember spells) first new t ∧ fields = new.reverse ++ read ∧
      c.rest = t ++ '\x7d' :: c'.rest := by
  induction fuel generalizing first read c with
  | zero => cases hread
  | succ fuel ih =>
      obtain ⟨⟨more, c₁⟩, hmore, hread⟩ := bind_eq_ok hread
      obtain ⟨hnext, hquote⟩ := moreKeys_sound hmore
      cases more with
      | true =>
          obtain ⟨hlead, hrest⟩ := hnext
          obtain ⟨cs, hcs⟩ := hquote rfl
          obtain ⟨⟨key, c₂⟩, hkey, hread⟩ := bind_eq_ok hread
          obtain ⟨c₃, hcolon, hread⟩ := bind_eq_ok hread
          obtain ⟨⟨a, c₄⟩, hitem, hread⟩ := bind_eq_ok hread
          obtain ⟨name, hname, hkeyrest⟩ := string_sound hkey
          obtain ⟨before, hbefore, hcolonrest⟩ := colon_sound hcolon
          obtain ⟨after, t, hafter, hspells, ht⟩ := h.sound hitem
          obtain ⟨new, u, hnew, rfl, hu⟩ := ih hread
          rw [rest_advance hcs] at hkeyrest
          refine ⟨(key, a) :: new, _, .cons hlead (.pair hname hbefore hafter hspells) hnew,
            by simp, ?_⟩
          rw [hrest, hcs, hkeyrest, hcolonrest, ht, hu]
          simp
      | false =>
          cases hread
          generalize hcs : c₁.rest = cs at hnext
          cases hnext with
          | @closed gap rest hgap hrest =>
              refine ⟨[], gap, .nil hgap, by simp, ?_⟩
              rw [hrest, rest_advance hcs]

theorem members_complete (h : Exact spells r) {first : Bool} {fields : List (String × α)}
    {t : List Char} (ht : Elements (SpellsMember spells) first fields t) (fuel : Nat)
    (read : List (String × α)) (rest : List Char) (p : Place) :
    ∃ p', members r (fields.length + fuel + 1) first read ⟨t ++ '\x7d' :: rest, p⟩ =
      .ok (fields.reverse ++ read, ⟨rest, p'⟩) := by
  induction ht generalizing read p with
  | @nil first gap hgap =>
      obtain ⟨p', hmore⟩ := moreKeys_close hgap first rest p
      refine ⟨p'.after '\x7d', ?_⟩
      rw [members, hmore, List.reverse_nil, List.nil_append]
      simp only [bind, Except.bind, Bool.false_eq_true, if_false, advance_cons, pure, Except.pure]
  | @cons first field fields lead _ more hlead hspells hmore ih =>
      have hend : Ends ('\x7d' :: rest) := by
        intro d hd
        cases hd
        exact .inr (.inr (.inr rfl))
      obtain @⟨key, a, _, before, after, t, hname, hbefore, hafter, hvalue⟩ := hspells
      obtain @⟨chars, hchars⟩ := hname
      obtain ⟨p₁, hnext⟩ := moreKeys_next hlead
        (chars ++ ['"'] ++ (before ++ ':' :: (after ++ (t ++ (more ++ '\x7d' :: rest))))) p
      obtain ⟨p₂, hkey⟩ := string_complete (.quoted hchars)
        (before ++ ':' :: (after ++ (t ++ (more ++ '\x7d' :: rest)))) (p₁.after '"')
      obtain ⟨p₃, hcolon⟩ := colon_complete hbefore (after ++ (t ++ (more ++ '\x7d' :: rest))) p₂
      obtain ⟨p₄, hitem⟩ := h.complete hafter hvalue (hmore.ends hend) p₃
      obtain ⟨p₅, hread⟩ := ih ((key, a) :: read) p₄
      refine ⟨p₅, ?_⟩
      rw [List.length_cons,
        show fields.length + 1 + fuel + 1 = (fields.length + fuel + 1) + 1 by omega, members]
      simp only [List.append_assoc, List.cons_append, List.nil_append] at hnext hkey hitem ⊢
      simp only [hnext, bind, Except.bind, if_true, advance_cons, hkey, hcolon, hitem, hread]
      simp

theorem bracketed_sound (h : Exact spells r) {fuel : Nat} {as : List α} {c c' : Cursor}
    (hread : elements r fuel true [] c = .ok (as, c')) :
    ∃ t, SpellsList spells as ('[' :: t) ∧ c.rest = t ++ c'.rest := by
  obtain ⟨new, t, hnew, rfl, hrest⟩ := elements_sound h hread
  exact ⟨t ++ [']'], .brackets hnew, by rw [hrest, List.append_assoc]; rfl⟩

theorem bracketed_complete (h : Exact spells r) {as : List α} {t rest : List Char}
    (ht : SpellsList spells as ('[' :: t)) {fuel : Nat} (hfuel : (t ++ rest).length < fuel)
    (p : Place) : ∃ p', elements r fuel true [] ⟨t ++ rest, p⟩ = .ok (as, ⟨rest, p'⟩) := by
  obtain @⟨t, helements⟩ := ht
  have hlength := helements.length_le h.ne_nil
  rw [List.append_assoc, List.length_append] at hfuel
  obtain ⟨more, rfl⟩ := Nat.exists_eq_add_of_lt (Nat.lt_of_le_of_lt
    (Nat.le_trans hlength (Nat.le_add_right _ _)) hfuel)
  rw [List.append_assoc]
  exact elements_complete h helements more [] rest p

theorem braced_sound (h : Exact spells r) {fuel : Nat} {fields : List (String × α)}
    {c c' : Cursor} (hread : members r fuel true [] c = .ok (fields, c')) :
    ∃ t, SpellsObject spells fields.reverse ('\x7b' :: t) ∧ c.rest = t ++ c'.rest := by
  obtain ⟨new, t, hnew, rfl, hrest⟩ := members_sound h hread
  refine ⟨t ++ ['\x7d'], ?_, by rw [hrest, List.append_assoc]; rfl⟩
  rw [List.append_nil, List.reverse_reverse]
  exact .braces hnew

theorem braced_complete (h : Exact spells r) {fields : List (String × α)} {t rest : List Char}
    (ht : SpellsObject spells fields ('\x7b' :: t)) {fuel : Nat}
    (hfuel : (t ++ rest).length < fuel) (p : Place) :
    ∃ p', members r fuel true [] ⟨t ++ rest, p⟩ = .ok (fields.reverse, ⟨rest, p'⟩) := by
  obtain @⟨t, helements⟩ := ht
  have hlength := helements.length_le fun {field t} hmember => by
    obtain ⟨⟨_⟩⟩ := hmember
    exact List.cons_ne_nil _ _
  rw [List.append_assoc, List.length_append] at hfuel
  obtain ⟨more, rfl⟩ := Nat.exists_eq_add_of_lt (Nat.lt_of_le_of_lt
    (Nat.le_trans hlength (Nat.le_add_right _ _)) hfuel)
  obtain ⟨p', hread⟩ := members_complete h helements more [] rest p
  rw [List.append_nil] at hread
  rw [List.append_assoc]
  exact ⟨p', hread⟩

end Cursor

theorem SpellsList.opens {as : List α} {t : List Char} (h : SpellsList spells as t) : Opens t := by
  obtain ⟨_⟩ := h
  exact ⟨'[', _, rfl, rfl, by decide⟩

/-- Lists are read exactly if their elements are. -/
theorem Reader.list_exact {item : Reader α} {levels : Nat} (h : Exact spells (item levels)) :
    Exact (SpellsList spells) (Reader.list item (levels + 1)) where
  sound := by
    intro c c' as hread
    obtain ⟨gap, hgap, hrest⟩ := Cursor.exists_gap c
    unfold Reader.list at hread
    dsimp only at hread
    split at hread
    · next cs hskip =>
      obtain ⟨t, ht, hmore⟩ := Cursor.bracketed_sound h hread
      rw [Cursor.rest_advance hskip] at hmore
      exact ⟨gap, '[' :: t, hgap, ht, by rw [hrest, hskip, hmore, List.cons_append]⟩
    · obtain ⟨e, herror⟩ := @Cursor.refuse_error (List α × Cursor) "a sequence" c.skipBlanks
      rw [herror] at hread
      cases hread
  complete := by
    intro gap t rest as hgap ht _ p
    obtain @⟨t, helements⟩ := ht
    obtain ⟨p₁, hskip⟩ := Cursor.skipBlanks_append (c := '[') hgap rfl (t ++ [']'] ++ rest) p
    obtain ⟨p₂, hread⟩ := Cursor.bracketed_complete h (.brackets helements)
      (Nat.lt_succ_self (t ++ [']'] ++ rest).length) (p₁.after '[')
    refine ⟨p₂, ?_⟩
    rw [List.cons_append, Reader.list, hskip]
    exact hread
  opens := SpellsList.opens

end Crossover.Json
