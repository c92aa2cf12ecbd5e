import Crossover.Proofs.Json.Grammar
import Crossover.Proofs.Json.Reading

/-!
# Strings are read exactly

A string is read from the texts that spell it, and from no others: each step of the reader takes
one character in one of its spellings, and for each spelling there is such a step.
-/

namespace Crossover.Json

theorem bind_eq_ok {ε α β : Type} {x : Except ε α} {f : α → Except ε β} {b : β}
    (h : x >>= f = .ok b) : ∃ a, x = .ok a ∧ f a = .ok b := by
  cases x with
  | error e => cases h
  | ok a => exact ⟨a, rfl, h⟩

namespace Cursor

theorem rest_advance {c : Cursor} {ch : Char} {rest : List Char} (h : c.rest = ch :: rest) :
    c.advance.rest = rest := by
  rw [advance, h]

theorem hexEscape_sound {c c' : Cursor} {n : Nat} (h : hexEscape c = .ok (n, c')) :
    ∃ t, SpellsCode n t ∧ c.rest = t ++ c'.rest := by
  unfold hexEscape at h
  dsimp only at h
  split at h
  · next a b d e hnext =>
    split at h
    · next hcode =>
      cases h
      refine ⟨[a, b, d, e], .digits hcode, ?_⟩
      rw [hnext]
      show c.rest = [a, b, d, e] ++ c.rest.drop 4
      rw [← hnext, List.take_append_drop]
    · cases h
  · split at h
    · cases h
    · cases h

theorem hexEscape_complete {n : Nat} {t : List Char} (h : SpellsCode n t) (rest : List Char)
    (p : Place) : ∃ p', hexEscape ⟨t ++ rest, p⟩ = .ok (n, ⟨rest, p'⟩) := by
  obtain ⟨hcode⟩ := h
  simp only [hexEscape, List.cons_append, List.nil_append, List.take_succ_cons, List.take_zero,
    hcode, skip, List.length_cons, List.length_nil, List.drop_succ_cons, List.drop_zero]
  exact ⟨_, rfl⟩

theorem surrogateMark_sound {mark : Char} {c c' : Cursor} (h : surrogateMark mark c = .ok c') :
    c.rest = mark :: c'.rest := by
  unfold surrogateMark at h
  split at h
  · cases h
  · next ch rest hrest =>
    split at h
    · next hmark =>
      cases h
      rw [rest_advance hrest, hrest, hmark]
    · cases h

theorem unicodeEscape_sound {c c' : Cursor} {e : Char} (h : unicodeEscape c = .ok (e, c')) :
    ∃ t, SpellsEscape e ('u' :: t) ∧ c.rest = t ++ c'.rest := by
  obtain ⟨⟨n, c₁⟩, hfirst, h⟩ := bind_eq_ok h
  obtain ⟨t, hcode, hrest⟩ := hexEscape_sound hfirst
  dsimp only at h
  split at h
  · cases h
  · next hlow =>
    split at h
    · next hhigh =>
      obtain ⟨c₂, hslash, h⟩ := bind_eq_ok h
      obtain ⟨c₃, hu, h⟩ := bind_eq_ok h
      obtain ⟨⟨m, c₄⟩, hsecond, h⟩ := bind_eq_ok h
      obtain ⟨u, hcode', hrest'⟩ := hexEscape_sound hsecond
      dsimp only at h
      split at h
      · next hpair =>
        obtain ⟨rfl, rfl⟩ := Prod.mk.injEq .. ▸ Except.ok.inj h
        refine ⟨_, .pair hcode hhigh.1 hhigh.2 hcode' hpair.1 hpair.2, ?_⟩
        rw [hrest, surrogateMark_sound hslash, surrogateMark_sound hu, hrest']
        simp
      · cases h
    · cases h
      exact ⟨t, .code hcode (by omega), hrest⟩

theorem unicodeEscape_code {n : Nat} {t : List Char} (h : SpellsCode n t)
    (hn : n < 0xd800 ∨ 0xdfff < n) (rest : List Char) (p : Place) :
    ∃ p', unicodeEscape ⟨t ++ rest, p⟩ = .ok (Char.ofNat n, ⟨rest, p'⟩) := by
  obtain ⟨p', hread⟩ := hexEscape_complete h rest p
  refine ⟨p', ?_⟩
  have hlow : ¬ (0xdc00 ≤ n ∧ n ≤ 0xdfff) := by omega
  have hhigh : ¬ (0xd800 ≤ n ∧ n ≤ 0xdbff) := by omega
  simp only [unicodeEscape, hread, bind, Except.bind, if_neg hlow, if_neg hhigh, pure, Except.pure]

theorem unicodeEscape_pair {n m : Nat} {t u : List Char} (h : SpellsCode n t) (hn : 0xd800 ≤ n)
    (hn' : n ≤ 0xdbff) (h' : SpellsCode m u) (hm : 0xdc00 ≤ m) (hm' : m ≤ 0xdfff)
    (rest : List Char) (p : Place) :
    ∃ p', unicodeEscape ⟨t ++ '\\' :: 'u' :: u ++ rest, p⟩ =
      .ok (Char.ofNat ((n - 0xd800) * 1024 + (m - 0xdc00) + 0x10000), ⟨rest, p'⟩) := by
  obtain ⟨p₁, hfirst⟩ := hexEscape_complete h ('\\' :: 'u' :: u ++ rest) p
  obtain ⟨p₂, hsecond⟩ := hexEscape_complete h' rest ((p₁.after '\\').after 'u')
  refine ⟨p₂, ?_⟩
  have hlow : ¬ (0xdc00 ≤ n ∧ n ≤ 0xdfff) := by omega
  rw [List.cons_append, List.cons_append] at hfirst
  simp only [unicodeEscape, List.append_assoc, List.cons_append, hfirst, bind, Except.bind,
    if_neg hlow, if_pos (And.intro hn hn'), surrogateMark, if_true, advance_cons, hsecond,
    if_pos (And.intro hm hm'), pure, Except.pure]

theorem escape_sound {c c' : Cursor} {e : Char} (h : escape c = .ok (e, c')) :
    ∃ t, SpellsEscape e t ∧ c.rest = t ++ c'.rest := by
  unfold escape at h
  split at h
  · cases h
  · next ch rest hrest =>
    split at h
    · next hu =>
      obtain ⟨t, hspells, ht⟩ := unicodeEscape_sound h
      rw [rest_advance hrest] at ht
      exact ⟨'u' :: t, hspells, by rw [hrest, hu, ht, List.cons_append]⟩
    · split at h
      · next hletter =>
        cases h
        rw [rest_advance hrest]
        exact ⟨[ch], .letter hletter, hrest⟩
      · cases h

theorem escape_complete {e : Char} {t : List Char} (h : SpellsEscape e t) (rest : List Char)
    (p : Place) : ∃ p', escape ⟨t ++ rest, p⟩ = .ok (e, ⟨rest, p'⟩) := by
  cases h with
  | letter hletter =>
      refine ⟨_, escape_letter hletter ?_ rest p⟩
      rintro rfl
      cases hletter
  | code hcode hn => exact unicodeEscape_code hcode hn rest (p.after 'u')
  | pair hcode hn hn' hcode' hm hm' =>
      exact unicodeEscape_pair hcode hn hn' hcode' hm hm' rest (p.after 'u')

theorem stringChars_sound {fuel : Nat} {read cs : List Char} {c c' : Cursor}
    (h : stringChars fuel read c = .ok (cs, c')) :
    ∃ s t, SpellsChars s t ∧ cs = read.reverse ++ s ∧ c.rest = t ++ '"' :: c'.rest := by
  induction fuel generalizing read c with
  | zero => cases h
  | succ fuel ih =>
      unfold stringChars at h
      split at h
      · cases h
      · next ch rest hrest =>
        split at h
        · next hquote =>
          cases h
          refine ⟨[], [], .nil, (List.append_nil _).symm, ?_⟩
          rw [rest_advance hrest, hrest, hquote, List.nil_append]
        · next hquote =>
          split at h
          · next hslash =>
            obtain ⟨⟨e, c₁⟩, hescape, h⟩ := bind_eq_ok h
            obtain ⟨t, hspells, ht⟩ := escape_sound hescape
            obtain ⟨s, u, hchars, rfl, hu⟩ := ih h
            refine ⟨e :: s, _, .cons (.escaped hspells) hchars, by simp, ?_⟩
            rw [rest_advance hrest] at ht
            rw [hrest, hslash, ht, hu]
            simp
          · next hslash =>
            split at h
            · cases h
            · next hcontrol =>
              obtain ⟨s, u, hchars, rfl, hu⟩ := ih h
              refine ⟨ch :: s, _, .cons (.plain hquote hslash (by omega)) hchars, by simp, ?_⟩
              rw [rest_advance hrest] at hu
              rw [hrest, hu]
              rfl

theorem stringChars_complete {s t : List Char} (h : SpellsChars s t) (fuel : Nat)
    (read rest : List Char) (p : Place) :
    ∃ p', stringChars (s.length + fuel + 1) read ⟨t ++ '"' :: rest, p⟩ =
      .ok (read.reverse ++ s, ⟨rest, p'⟩) := by
  induction h generalizing read p with
  | nil =>
      rw [List.append_nil]
      exact ⟨_, rfl⟩
  | @cons c s t u hchar _ ih =>
      have hstep : ∃ p₁, ∀ fuel, stringChars (fuel + 1) read ⟨t ++ (u ++ '"' :: rest), p⟩ =
          stringChars fuel (c :: read) ⟨u ++ '"' :: rest, p₁⟩ := by
        cases hchar with
        | plain hquote hslash hcontrol =>
            exact ⟨_, stringChars_plain hquote hslash (by omega) read _ p⟩
        | escaped hescape =>
            exact stringChars_escape (fun p => escape_complete hescape _ p) p
      obtain ⟨p₁, hstep⟩ := hstep
      obtain ⟨p₂, hrest⟩ := ih (c :: read) p₁
      refine ⟨p₂, ?_⟩
      rw [List.append_assoc, List.length_cons,
        show s.length + 1 + fuel + 1 = (s.length + fuel + 1) + 1 by omega, hstep, hrest,
        List.reverse_cons, List.append_assoc]
      rfl

end Cursor

theorem SpellsChar.length_pos {c : Char} {t : List Char} (h : SpellsChar c t) : 0 < t.length := by
  cases h with
  | plain => exact Nat.succ_pos _
  | escaped => exact Nat.succ_pos _

theorem SpellsChars.length_le {s t : List Char} (h : SpellsChars s t) : s.length ≤ t.length := by
  induction h with
  | nil => exact Nat.le_refl _
  | cons hchar _ ih =>
      have hpos := hchar.length_pos
      rw [List.length_cons, List.length_append]
      omega

namespace Cursor

theorem string_sound {c c' : Cursor} {s : String} (h : c.string = .ok (s, c')) :
    ∃ t, SpellsString s ('"' :: t) ∧ c.rest = t ++ c'.rest := by
  obtain ⟨⟨cs, c₁⟩, hchars, h⟩ := bind_eq_ok h
  cases h
  obtain ⟨s, t, hspells, rfl, hrest⟩ := stringChars_sound hchars
  refine ⟨t ++ ['"'], .quoted ?_, ?_⟩
  · rwa [String.toList_ofList]
  · rw [hrest, List.append_assoc]
    rfl

theorem string_complete {s : String} {t : List Char} (h : SpellsString s ('"' :: t))
    (rest : List Char) (p : Place) : ∃ p', string ⟨t ++ rest, p⟩ = .ok (s, ⟨rest, p'⟩) := by
  cases h with
  | @quoted t hchars =>
      have hlength : s.toList.length ≤ (t ++ ['"'] ++ rest).length := by
        rw [List.append_assoc, List.length_append]
        exact Nat.le_add_right_of_le hchars.length_le
      obtain ⟨fuel, hfuel⟩ := Nat.exists_eq_add_of_le hlength
      obtain ⟨p', hread⟩ := stringChars_complete hchars fuel [] rest p
      refine ⟨p', ?_⟩
      rw [string, hfuel, List.append_assoc]
      rw [List.singleton_append, hread]
      simp only [bind, Except.bind, pure, Except.pure, List.reverse_nil, List.nil_append,
        String.ofList_toList]

end Cursor

end Crossover.Json
