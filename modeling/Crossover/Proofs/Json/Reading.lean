import Mathlib.Tactic.SplitIfs
import Crossover.Json.Record

/-!
# Reading what was written

What a reader makes of a text does not depend on where the text stands: the places only show in
errors, and a value ends where a delimiter comes next. So every written form is described by the
value that a reader makes of it wherever it stands, or by the fact that it is refused.
-/

namespace Crossover.Json

variable {α β : Type}

/-- The end of the text, or what may follow a value inside a bracket. -/
def Delimited (rest : List Char) : Prop := ∀ c ∈ rest.head?, c = ',' ∨ c = ']' ∨ c = '\x7d'

theorem Delimited.nil : Delimited [] := by
  intro c hc
  cases hc

theorem Delimited.comma (rest : List Char) : Delimited (',' :: rest) := by
  intro c hc
  cases hc
  exact .inl rfl

theorem Delimited.bracket (rest : List Char) : Delimited (']' :: rest) := by
  intro c hc
  cases hc
  exact .inr (.inl rfl)

theorem Delimited.brace (rest : List Char) : Delimited ('\x7d' :: rest) := by
  intro c hc
  cases hc
  exact .inr (.inr rfl)

/-- A reader came to a value and left the rest, at whatever place; or it failed. -/
inductive Leaves (rest : List Char) : Option α → Except Error (α × Cursor) → Prop
  | value (a : α) (p : Place) : Leaves rest (some a) (.ok (a, ⟨rest, p⟩))
  | failure (e : Error) : Leaves rest none (.error e)

/-- What a reader makes of a text wherever the text stands: a value, or a failure. -/
def Makes (depth : Nat) (r : Reader α) (t : List Char) (o : Option α) : Prop :=
  ∀ levels, depth ≤ levels → ∀ rest, Delimited rest → ∀ p, Leaves rest o (r levels ⟨t ++ rest, p⟩)

theorem Makes.mono {depth depth' : Nat} {r : Reader α} {t : List Char} {o : Option α}
    (h : Makes depth r t o) (hdepth : depth ≤ depth') : Makes depth' r t o :=
  fun levels hlevels => h levels (Nat.le_trans hdepth hlevels)

/-- A reader of a whole text makes the same of it. -/
theorem Makes.run {depth : Nat} {r : Reader α} {t : List Char} {o : Option α}
    (h : Makes depth r t o) (hdepth : depth ≤ allLevels) : (r.run t).toOption = o := by
  have hleaves := h allLevels hdepth [] .nil ⟨1, 0⟩
  rw [List.append_nil] at hleaves
  unfold Reader.run Cursor.start
  generalize r allLevels ⟨t, 1, 0⟩ = reply at hleaves
  cases hleaves with
  | value a p => rfl
  | failure e => rfl

namespace Cursor

@[simp] theorem advance_cons (c : Char) (rest : List Char) (p : Place) :
    (⟨c :: rest, p⟩ : Cursor).advance = ⟨rest, p.after c⟩ := rfl

theorem skipBlanks_cons {c : Char} (rest : List Char) (p : Place) (h : isBlank c = false) :
    (⟨c :: rest, p⟩ : Cursor).skipBlanks = ⟨c :: rest, p⟩ := by
  simp [skipBlanks, skipBlanks.go, h]

theorem colon_cons (rest : List Char) (p : Place) :
    (⟨':' :: rest, p⟩ : Cursor).colon = .ok ⟨rest, p.after ':'⟩ := by
  rw [colon, skipBlanks_cons rest p (by decide)]
  rfl

/-! ## Strings -/

theorem hexValues?_control : ∀ n < 0x20,
    hexValues? '0' '0' (hexDigit (n / 16)) (hexDigit (n % 16)) = some n := by
  decide

/-- A character is written as a letter or as a hexadecimal number behind a backslash, or as it
is. -/
inductive Written (c : Char) : List Char → Prop
  | letter {l : Char} : l ≠ 'u' → letterEscape? l = some c → Written c ['\\', l]
  | control : c.toNat < 0x20 →
      Written c ['\\', 'u', '0', '0', hexDigit (c.toNat / 16), hexDigit (c.toNat % 16)]
  | plain : c ≠ '"' → c ≠ '\\' → ¬ c.toNat < 0x20 → Written c [c]

theorem written_escapedChar (c : Char) : Written c (escapedChar c) := by
  have letter (d l : Char) (hu : l ≠ 'u') (hl : letterEscape? l = some d) (h : c = d) :
      Written c ['\\', l] := h ▸ .letter hu hl
  unfold escapedChar
  split_ifs with h₁ h₂ h₃ h₄ h₅ h₆ h₇ h₈
  · exact letter '"' '"' (by decide) rfl h₁
  · exact letter '\\' '\\' (by decide) rfl h₂
  · exact letter '\x08' 'b' (by decide) rfl h₃
  · exact letter '\x0c' 'f' (by decide) rfl h₄
  · exact letter '\n' 'n' (by decide) rfl h₅
  · exact letter '\r' 'r' (by decide) rfl h₆
  · exact letter '\t' 't' (by decide) rfl h₇
  · exact .control h₈
  · exact .plain h₁ h₂ h₈

theorem escape_letter {letter c : Char} (h : letterEscape? letter = some c) (hu : letter ≠ 'u')
    (rest : List Char) (p : Place) :
    escape ⟨letter :: rest, p⟩ = .ok (c, ⟨rest, p.after letter⟩) := by
  simp only [escape, if_neg hu, h, advance_cons]

theorem escape_control {c : Char} (h : c.toNat < 0x20) (rest : List Char) (p : Place) :
    ∃ p', escape ⟨'u' :: '0' :: '0' :: hexDigit (c.toNat / 16) :: hexDigit (c.toNat % 16) :: rest,
      p⟩ = .ok (c, ⟨rest, p'⟩) := by
  have hchar : Char.ofNat c.toNat = c := Char.ofNat_toNat c
  have hlow : ¬ (0xdc00 ≤ c.toNat ∧ c.toNat ≤ 0xdfff) := by omega
  have hhigh : ¬ (0xd800 ≤ c.toNat ∧ c.toNat ≤ 0xdbff) := by omega
  simp only [escape, if_true, advance_cons, unicodeEscape, hexEscape, List.take_succ_cons,
    List.take_zero, hexValues?_control _ h, skip, List.length_cons, List.length_nil,
    List.drop_succ_cons, List.drop_zero, bind, Except.bind, if_neg hlow, if_neg hhigh, hchar, pure,
    Except.pure]
  exact ⟨_, rfl⟩

theorem stringChars_escape {read more : List Char} {c : Char} {cs : List Char}
    (h : ∀ p, ∃ p', escape ⟨cs ++ more, p⟩ = .ok (c, ⟨more, p'⟩)) (p : Place) :
    ∃ p', ∀ fuel, stringChars (fuel + 1) read ⟨'\\' :: cs ++ more, p⟩ =
      stringChars fuel (c :: read) ⟨more, p'⟩ := by
  obtain ⟨p', hescape⟩ := h (p.after '\\')
  refine ⟨p', fun fuel => ?_⟩
  have hquote : '\\' ≠ '"' := by decide
  simp only [stringChars, List.cons_append, if_neg hquote, if_true, advance_cons, hescape, bind,
    Except.bind]

theorem stringChars_plain {c : Char} (hquote : c ≠ '"') (hslash : c ≠ '\\')
    (hcontrol : ¬ c.toNat < 0x20) (read more : List Char) (p : Place) (fuel : Nat) :
    stringChars (fuel + 1) read ⟨c :: more, p⟩ =
      stringChars fuel (c :: read) ⟨more, p.after c⟩ := by
  simp only [stringChars, if_neg hquote, if_neg hslash, if_neg hcontrol, advance_cons]

/-- One written character is one character read. -/
theorem stringChars_escapedChar (c : Char) (read more : List Char) (p : Place) :
    ∃ p', ∀ fuel, stringChars (fuel + 1) read ⟨escapedChar c ++ more, p⟩ =
      stringChars fuel (c :: read) ⟨more, p'⟩ := by
  have hwritten := written_escapedChar c
  generalize escapedChar c = cs at hwritten
  cases hwritten with
  | letter hu hl => exact stringChars_escape (fun p => ⟨_, escape_letter hl hu more p⟩) p
  | control hcontrol => exact stringChars_escape (fun p => escape_control hcontrol more p) p
  | plain hquote hslash hcontrol =>
      exact ⟨_, stringChars_plain hquote hslash hcontrol read more p⟩

theorem escapedChar_length_pos (c : Char) : 0 < (escapedChar c).length := by
  have hwritten := written_escapedChar c
  generalize escapedChar c = cs at hwritten ⊢
  cases hwritten with
  | letter => exact Nat.succ_pos _
  | control => exact Nat.succ_pos _
  | plain => exact Nat.succ_pos _

theorem stringChars_escaped (s read rest : List Char) (p : Place) (fuel : Nat) :
    ∃ p', stringChars (s.length + fuel + 1) read ⟨s.flatMap escapedChar ++ '"' :: rest, p⟩ =
      .ok (read.reverse ++ s, ⟨rest, p'⟩) := by
  induction s generalizing read p with
  | nil =>
      rw [List.append_nil]
      exact ⟨_, rfl⟩
  | cons c s ih =>
      rw [List.flatMap_cons, List.append_assoc, List.length_cons]
      obtain ⟨p₁, hstep⟩ := stringChars_escapedChar c read (s.flatMap escapedChar ++ '"' :: rest) p
      obtain ⟨p₂, hrest⟩ := ih (c :: read) p₁
      refine ⟨p₂, ?_⟩
      rw [show s.length + 1 + fuel + 1 = (s.length + fuel + 1) + 1 by omega, hstep, hrest,
        List.reverse_cons, List.append_assoc]
      rfl

theorem length_le_flatMap (s : List Char) : s.length ≤ (s.flatMap escapedChar).length := by
  induction s with
  | nil => exact Nat.le_refl _
  | cons c s ih =>
      have hpos := escapedChar_length_pos c
      rw [List.flatMap_cons, List.length_append, List.length_cons]
      omega

/-- A written string is read back, after its opening quote, whatever follows it. -/
theorem string_stringText (s : String) (rest : List Char) (p : Place) :
    ∃ p', string ⟨s.toList.flatMap escapedChar ++ '"' :: rest, p⟩ = .ok (s, ⟨rest, p'⟩) := by
  have hlength : s.toList.length ≤ (s.toList.flatMap escapedChar ++ '"' :: rest).length := by
    rw [List.length_append]
    exact Nat.le_add_right_of_le (length_le_flatMap _)
  obtain ⟨fuel, hfuel⟩ := Nat.exists_eq_add_of_le hlength
  obtain ⟨p', hread⟩ := stringChars_escaped s.toList [] rest p fuel
  refine ⟨p', ?_⟩
  rw [string, hfuel, hread]
  simp only [bind, Except.bind, pure, Except.pure, List.reverse_nil, List.nil_append,
    String.ofList_toList]

end Cursor

theorem escapedChar_plain {c : Char} (hquote : c ≠ '"') (hslash : c ≠ '\\')
    (hcontrol : ¬ c.toNat < 0x20) : escapedChar c = [c] := by
  have hne {d : Char} (hd : d.toNat < 0x20) : c ≠ d := by
    rintro rfl
    exact hcontrol hd
  rw [escapedChar, if_neg hquote, if_neg hslash, if_neg (hne (by decide)),
    if_neg (hne (by decide)), if_neg (hne (by decide)), if_neg (hne (by decide)),
    if_neg (hne (by decide)), if_neg hcontrol]

theorem stringText_append (s : String) (rest : List Char) :
    stringText s ++ rest = '"' :: (s.toList.flatMap escapedChar ++ '"' :: rest) := by
  simp only [stringText, List.cons_append, List.append_assoc, List.nil_append]

theorem Reader.text_makes (s : String) : Makes 0 Reader.text (stringText s) (some s) := by
  intro levels _ rest _ p
  obtain ⟨p', hread⟩ := Cursor.string_stringText s rest (p.after '"')
  rw [stringText_append, Reader.text, Cursor.skipBlanks_cons _ _ (by decide)]
  dsimp only
  rw [Cursor.advance_cons, hread]
  exact .value s p'

/-- The name of an alternative, as a string. -/
theorem Reader.alternative_makes {cases : List (String × α)} {name : String} {a : α}
    (h : cases.lookup name = some a) :
    Makes 0 (Reader.alternative cases) (stringText name) (some a) := by
  intro levels _ rest _ p
  obtain ⟨p', hread⟩ := Cursor.string_stringText name rest (p.after '"')
  rw [stringText_append, Reader.alternative, Cursor.skipBlanks_cons _ _ (by decide)]
  dsimp only
  rw [alternativeName, Cursor.skipBlanks_cons _ _ (by decide)]
  dsimp only
  rw [Cursor.advance_cons, hread]
  simp only [bind, Except.bind, h]
  exact .value a p'

end Crossover.Json
