import GoSpecs.Text.Lossy

namespace GoSpecs.Text

theorem continuation?_two {first : Nat} (low : 0xc2 ≤ first) (high : first ≤ 0xdf) :
    continuation? first = some (0x80, 0xbf, 1) :=
  if_pos ⟨low, high⟩

theorem continuation?_three {first : Nat} (low : 0xe0 ≤ first) (high : first ≤ 0xef) :
    continuation? first = some (if first = 0xe0 then 0xa0 else 0x80, if first = 0xed then 0x9f else 0xbf, 2) := by
  unfold continuation?
  grind

theorem continuation?_four {first : Nat} (low : 0xf0 ≤ first) (high : first ≤ 0xf4) :
    continuation? first = some (if first = 0xf0 then 0x90 else 0x80, if first = 0xf4 then 0x8f else 0xbf, 3) := by
  unfold continuation?
  grind

theorem lossyFrom_ascii {value : Nat} (small : value < 0x80) (bytes : Bytes) :
    lossyFrom none (UInt8.ofNat value :: bytes) = Char.ofNat value :: lossyFrom none bytes := by
  have size : (UInt8.ofNat value).toNat = value := by
    rw [UInt8.toNat_ofNat']
    omega
  simp only [lossyFrom, advance, opening, size, if_pos small]
  rfl

theorem lossyFrom_opening {value low high missing : Nat} (bound : value < 256) (large : 0x80 ≤ value)
    (found : continuation? value = some (low, high, missing)) (bytes : Bytes) :
    lossyFrom none (UInt8.ofNat value :: bytes) =
      lossyFrom (some ⟨value % (1 <<< (6 - missing)), missing, low, high⟩) bytes := by
  have size : (UInt8.ofNat value).toNat = value := by
    rw [UInt8.toNat_ofNat']
    omega
  simp only [lossyFrom, advance, opening, size, if_neg (Nat.not_lt.mpr large), found]
  rfl

theorem lossyFrom_more {code missing low high value : Nat} (bound : value < 256) (above : low ≤ value)
    (below : value ≤ high) (more : 1 < missing) (bytes : Bytes) :
    lossyFrom (some ⟨code, missing, low, high⟩) (UInt8.ofNat value :: bytes) =
      lossyFrom (some ⟨code * 64 + value % 64, missing - 1, 0x80, 0xbf⟩) bytes := by
  have size : (UInt8.ofNat value).toNat = value := by
    rw [UInt8.toNat_ofNat']
    omega
  simp only [lossyFrom, advance, size, if_pos (And.intro above below), if_neg (Nat.not_le.mpr more)]
  rfl

theorem lossyFrom_last {code low high value : Nat} (bound : value < 256) (above : low ≤ value)
    (below : value ≤ high) (bytes : Bytes) :
    lossyFrom (some ⟨code, 1, low, high⟩) (UInt8.ofNat value :: bytes) =
      Char.ofNat (code * 64 + value % 64) :: lossyFrom none bytes := by
  have size : (UInt8.ofNat value).toNat = value := by
    rw [UInt8.toNat_ofNat']
    omega
  simp only [lossyFrom, advance, size, if_pos (And.intro above below), if_pos (Nat.le_refl 1)]
  rfl

theorem lossyFrom_char (c : Char) (bytes : Bytes) :
    lossyFrom none (String.utf8EncodeChar c ++ bytes) = c :: lossyFrom none bytes := by
  have valid : c.toNat < 0xd800 ∨ 0xdfff < c.toNat ∧ c.toNat < 0x110000 := c.valid
  have whole : Char.ofNat c.toNat = c := Char.ofNat_toNat c
  have size : c.val.toNat = c.toNat := rfl
  unfold String.utf8EncodeChar
  simp only [size]
  generalize c.toNat = code at valid whole
  rw [← whole]
  split
  · exact lossyFrom_ascii (by omega) bytes
  split
  · have first := continuation?_two (show 0xc2 ≤ code / 64 % 32 + 192 by omega) (by omega)
    rw [List.cons_append, List.cons_append, lossyFrom_opening (by omega) (by omega) first,
      lossyFrom_last (by omega) (by omega) (by omega)]
    rw [show 1 <<< (6 - 1) = 32 from rfl]
    congr 2
    omega
  split
  · have first := continuation?_three (show 0xe0 ≤ code / 4096 % 16 + 224 by omega) (by omega)
    rw [List.cons_append, List.cons_append, List.cons_append, lossyFrom_opening (by omega) (by omega) first,
      lossyFrom_more (by omega) (by split <;> omega) (by split <;> omega) (by omega),
      lossyFrom_last (by omega) (by omega) (by omega)]
    rw [show 1 <<< (6 - 2) = 16 from rfl]
    congr 2
    omega
  · have first := continuation?_four (show 0xf0 ≤ code / 262144 % 8 + 240 by omega) (by omega)
    rw [List.cons_append, List.cons_append, List.cons_append, List.cons_append,
      lossyFrom_opening (by omega) (by omega) first,
      lossyFrom_more (by omega) (by split <;> omega) (by split <;> omega) (by omega),
      lossyFrom_more (by omega) (by omega) (by omega) (by omega), lossyFrom_last (by omega) (by omega) (by omega)]
    rw [show 1 <<< (6 - 3) = 8 from rfl]
    congr 2
    omega

theorem lossyFrom_chars (chars : List Char) (bytes : Bytes) :
    lossyFrom none (chars.flatMap String.utf8EncodeChar ++ bytes) = chars ++ lossyFrom none bytes := by
  induction chars with
  | nil => rfl
  | cons c chars ih => rw [List.flatMap_cons, List.append_assoc, lossyFrom_char, ih, List.cons_append]

@[simp] theorem lossy_utf8 (text : String) : lossy (utf8 text) = text := by
  have chars := lossyFrom_chars text.toList []
  rw [List.append_nil] at chars
  rw [lossy, utf8, chars]
  simp [lossyFrom]

/-- Whatever bytes complete it, the character is not in ASCII. -/
structure Incomplete.Wide (pending : Incomplete) : Prop where
  some : 0 < pending.missing
  low : 0x80 ≤ pending.low
  high : pending.high ≤ 0xbf
  more : 2 ≤ pending.code * 64 + (pending.low - 0x80)
  last : pending.missing = 1 → 0x80 ≤ pending.code * 64 + (pending.low - 0x80)

theorem wide_of_continuation? {value low high missing : Nat}
    (found : continuation? value = some (low, high, missing)) :
    Incomplete.Wide ⟨value % (1 <<< (6 - missing)), missing, low, high⟩ := by
  unfold continuation? at found
  repeat' split at found
  all_goals cases found
  all_goals
    refine ⟨by simp, by simp, by simp, ?_, ?_⟩ <;> simp only [Nat.reduceSub, Nat.reduceShiftLeft] <;> omega

theorem toNat_ofNat_le (value : Nat) : (Char.ofNat value).toNat = value ∨ (Char.ofNat value).toNat = 0 := by
  by_cases valid : value.isValidChar
  · exact .inl (by rw [Char.ofNat, dif_pos valid]; rfl)
  · exact .inr (by rw [Char.ofNat, dif_neg valid]; rfl)

/-- What a byte adds to the text and leaves to be completed, whatever came before. -/
structure Sound (value : Nat) (step : List Char × Option Incomplete) : Prop where
  chars : ∀ c ∈ step.1, 0 < c.toNat → c.toNat < 0x80 → c.toNat = value
  pending : ∀ pending ∈ step.2, pending.Wide

theorem sound_opening (value : Nat) : Sound value (opening value) := by
  unfold opening
  split
  · refine ⟨fun c here filled _ => ?_, nofun⟩
    obtain rfl := List.mem_singleton.mp here
    obtain same | none := toNat_ofNat_le value
    · exact same
    · omega
  · split
    · rename_i found
      refine ⟨nofun, fun pending here => ?_⟩
      cases here
      exact wide_of_continuation? found
    · refine ⟨fun c here _ small => ?_, nofun⟩
      obtain rfl := List.mem_singleton.mp here
      exact absurd small (by decide)

theorem sound_advance {pending? : Option Incomplete} (wide : ∀ pending ∈ pending?, pending.Wide) (value : Nat) :
    Sound value (advance pending? value) := by
  cases pending? with
  | none => exact sound_opening value
  | some pending =>
    obtain ⟨some, low, high, more, last⟩ := wide pending rfl
    obtain ⟨code, missing, low', high'⟩ := pending
    dsimp only at some low high more last
    unfold advance
    dsimp only
    split
    · rename_i within
      have digit : value % 64 = value - 0x80 := by omega
      split
      · refine ⟨fun c here filled small => ?_, nofun⟩
        obtain rfl := List.mem_singleton.mp here
        have least := last (by omega)
        obtain same | none := toNat_ofNat_le (code * 64 + value % 64) <;> omega
      · refine ⟨nofun, fun pending here => ?_⟩
        cases here
        constructor <;> dsimp only <;> omega
    · obtain ⟨chars, pending⟩ := sound_opening value
      refine ⟨fun c here filled small => ?_, pending⟩
      rcases List.mem_cons.mp here with rfl | here
      · exact absurd small (by decide)
      · exact chars c here filled small

theorem mem_of_mem_lossyFrom {c : Char} (filled : 0 < c.toNat) (small : c.toNat < 0x80) {bytes : Bytes}
    {pending? : Option Incomplete} (wide : ∀ pending ∈ pending?, pending.Wide)
    (here : c ∈ lossyFrom pending? bytes) : UInt8.ofNat c.toNat ∈ bytes := by
  induction bytes generalizing pending? with
  | nil =>
    unfold lossyFrom at here
    split at here
    · obtain rfl := List.mem_singleton.mp here
      exact absurd small (by decide)
    · cases here
  | cons byte bytes ih =>
    obtain ⟨chars, pending⟩ := sound_advance wide byte.toNat
    rw [lossyFrom] at here
    rcases List.mem_append.mp here with here | here
    · rw [chars c here filled small, UInt8.ofNat_toNat]
      exact List.mem_cons_self
    · exact List.mem_cons_of_mem _ (ih pending here)

/-- A character in ASCII is decoded from its byte alone. -/
theorem mem_of_mem_lossy {c : Char} (filled : 0 < c.toNat) (small : c.toNat < 0x80) {bytes : Bytes}
    (here : c ∈ (lossy bytes).toList) : UInt8.ofNat c.toNat ∈ bytes := by
  rw [lossy, String.toList_ofList] at here
  exact mem_of_mem_lossyFrom filled small (by simp) here

@[simp] theorem utf8_inj {first second : String} : utf8 first = utf8 second ↔ first = second := by
  refine ⟨fun same => ?_, congrArg utf8⟩
  rw [← lossy_utf8 first, same, lossy_utf8]

theorem utf8_append (front back : String) : utf8 (front ++ back) = utf8 front ++ utf8 back := by
  rw [utf8, String.toList_append, List.flatMap_append, utf8, utf8]

@[simp] theorem utf8_beq (first second : String) : (utf8 first == utf8 second) = (first == second) := by
  rw [Bool.eq_iff_iff]
  simp

theorem mem_utf8 {c : Char} (small : c.toNat < 0x80) {text : String} (here : UInt8.ofNat c.toNat ∈ utf8 text) :
    c ∈ text.toList := by
  obtain ⟨d, there, inside⟩ := List.mem_flatMap.mp here
  have size : d.val.toNat = d.toNat := rfl
  have toNat : (UInt8.ofNat c.toNat).toNat = c.toNat := by
    rw [UInt8.toNat_ofNat']
    omega
  suffices same : d.toNat = c.toNat by
    rw [← Char.ofNat_toNat c, ← same, Char.ofNat_toNat]
    exact there
  unfold String.utf8EncodeChar at inside
  simp only [size] at inside
  split at inside
  · have value := congrArg UInt8.toNat (List.mem_singleton.mp inside)
    rw [toNat, UInt8.toNat_ofNat'] at value
    omega
  · exfalso
    have large : ∀ value, 0x80 ≤ value % 256 → UInt8.ofNat c.toNat ≠ UInt8.ofNat value := by
      intro value large same
      have value := congrArg UInt8.toNat same
      rw [toNat, UInt8.toNat_ofNat'] at value
      omega
    split at inside
    · simp only [List.mem_cons, List.not_mem_nil, or_false] at inside
      rcases inside with same | same <;> exact large _ (by omega) same
    split at inside
    · simp only [List.mem_cons, List.not_mem_nil, or_false] at inside
      rcases inside with same | same | same <;> exact large _ (by omega) same
    · simp only [List.mem_cons, List.not_mem_nil, or_false] at inside
      rcases inside with same | same | same | same <;> exact large _ (by omega) same

end GoSpecs.Text
