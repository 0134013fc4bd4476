import Depot.Proofs.Results
import Depot.Text.Utf8

/-!
# Reading what was written in UTF-8

The bytes of a character are read as the character, whatever comes after them
(`Utf8.decodeFrom_encodeCodePoint`), so that the bytes of a text are read as the
text (`Utf8.decode_encode`). Halves of surrogate pairs are the exception: bytes
are written for them, and not read unless the reader lets them pass. So the bytes
always tell the text (`Utf8.encode_inj`).

Nothing else is read: the bytes after the first one of a character have to complete
it (`Utf8.Pending.Fits`), and so whatever is read has the bytes that it is read from
(`Utf8.decode_eq_ok_iff`).
-/

namespace Depot.Utf8

variable {surrogates : Bool} {p : Pending} {n more offset : Nat} {c : CodePoint} {bs : Bytes}

theorem toNat_tail (n : Nat) : (tail n).toNat = 0x80 + n % 0x40 := by
  rw [tail, UInt8.toNat_ofNat']
  omega

/-! ## The bytes after the first one -/

theorem decodeFrom_last (hmore : p.more = 0) (hlow : p.low ≤ 0x80 + n % 0x40)
    (hhigh : 0x80 + n % 0x40 ≤ p.high) :
    decodeFrom surrogates (some p) offset (tail n :: bs) =
      (decodeFrom surrogates none (offset + 1) bs).map
        (CodePoint.ofNat (p.bits * 0x40 + n % 0x40) :: ·) := by
  rw [decodeFrom, toNat_tail, if_pos ⟨hlow, hhigh⟩, Nat.add_sub_cancel_left]
  simp only [hmore]

theorem decodeFrom_more (hmore : p.more = more + 1) (hlow : p.low ≤ 0x80 + n % 0x40)
    (hhigh : 0x80 + n % 0x40 ≤ p.high) :
    decodeFrom surrogates (some p) offset (tail n :: bs) =
      decodeFrom surrogates (some ⟨p.seen ++ [tail n], p.bits * 0x40 + n % 0x40, more, 0x80, 0xbf⟩)
        (offset + 1) bs := by
  rw [decodeFrom, toNat_tail, if_pos ⟨hlow, hhigh⟩, Nat.add_sub_cancel_left]
  simp only [hmore]

/-! ## The first byte -/

theorem decodeFrom_ascii (h : n < 0x80) :
    decodeFrom surrogates none offset (UInt8.ofNat n :: bs) =
      (decodeFrom surrogates none (offset + 1) bs).map (CodePoint.ofNat n :: ·) := by
  have hn : (UInt8.ofNat n).toNat = n := UInt8.toNat_ofNat_of_lt' (Nat.lt_trans h (by decide))
  have hlt : UInt8.ofNat n < 0x80 := by
    rw [UInt8.lt_iff_toNat_lt, hn]
    exact h
  rw [decodeFrom, if_pos hlt, hn]

theorem decodeFrom_start {b : UInt8} (hb : 0x80 ≤ b.toNat) (h : start? surrogates b = some p) :
    decodeFrom surrogates none offset (b :: bs) =
      decodeFrom surrogates (some p) (offset + 1) bs := by
  have hnot : ¬b < 0x80 := by
    rw [UInt8.lt_iff_toNat_lt]
    exact Nat.not_lt.2 hb
  rw [decodeFrom, if_neg hnot, h]

theorem start?_two (hlow : 0x80 ≤ n) (hhigh : n < 0x800) :
    start? surrogates (UInt8.ofNat (0xc0 + n / 0x40)) =
      some ⟨[UInt8.ofNat (0xc0 + n / 0x40)], n / 0x40, 0, 0x80, 0xbf⟩ := by
  have hb : (UInt8.ofNat (0xc0 + n / 0x40)).toNat = 0xc0 + n / 0x40 := by
    rw [UInt8.toNat_ofNat']
    omega
  rw [start?, hb, if_pos (by omega), Nat.add_sub_cancel_left]

theorem start?_three (hhigh : n < 0x10000) :
    start? surrogates (UInt8.ofNat (0xe0 + n / 0x1000)) =
      some ⟨[UInt8.ofNat (0xe0 + n / 0x1000)], n / 0x1000, 1, if n < 0x1000 then 0xa0 else 0x80,
        if 0xd000 ≤ n ∧ n < 0xe000 ∧ !surrogates then 0x9f else 0xbf⟩ := by
  have hb : (UInt8.ofNat (0xe0 + n / 0x1000)).toNat = 0xe0 + n / 0x1000 := by
    rw [UInt8.toNat_ofNat']
    omega
  have hlow : 0xe0 + n / 0x1000 = 0xe0 ↔ n < 0x1000 := by omega
  have hhalf : (0xe0 + n / 0x1000 = 0xed ∧ !surrogates) ↔
      0xd000 ≤ n ∧ n < 0xe000 ∧ !surrogates :=
    ⟨fun ⟨h, hs⟩ => ⟨by omega, by omega, hs⟩, fun ⟨_, _, hs⟩ => ⟨by omega, hs⟩⟩
  rw [start?, hb, if_neg (by omega), if_pos (by omega), Nat.add_sub_cancel_left]
  simp only [hlow, hhalf]

theorem start?_four (hlow : 0x10000 ≤ n) (hhigh : n < 0x110000) :
    start? surrogates (UInt8.ofNat (0xf0 + n / 0x40000)) =
      some ⟨[UInt8.ofNat (0xf0 + n / 0x40000)], n / 0x40000, 2, if n < 0x40000 then 0x90 else 0x80,
        if 0x100000 ≤ n then 0x8f else 0xbf⟩ := by
  have hb : (UInt8.ofNat (0xf0 + n / 0x40000)).toNat = 0xf0 + n / 0x40000 := by
    rw [UInt8.toNat_ofNat']
    omega
  have hlow : 0xf0 + n / 0x40000 = 0xf0 ↔ n < 0x40000 := by omega
  have hhigh : 0xf0 + n / 0x40000 = 0xf4 ↔ 0x100000 ≤ n := by omega
  rw [start?, hb, if_neg (by omega), if_neg (by omega), if_pos (by omega), Nat.add_sub_cancel_left]
  simp only [hlow, hhigh]

/-! ## Characters and texts -/

/-- The first byte of several is none of ASCII. -/
theorem le_toNat_ofNat {first : Nat} (hlow : 0x80 ≤ first) (hhigh : first < 0x100) :
    0x80 ≤ (UInt8.ofNat first).toNat := by
  rw [UInt8.toNat_ofNat']
  omega

theorem decodeFrom_two (hlow : 0x80 ≤ n) (hhigh : n < 0x800) :
    decodeFrom surrogates none offset (UInt8.ofNat (0xc0 + n / 0x40) :: tail n :: bs) =
      (decodeFrom surrogates none (offset + 2) bs).map (CodePoint.ofNat n :: ·) := by
  have hbits : n / 0x40 * 0x40 + n % 0x40 = n := by omega
  rw [decodeFrom_start (le_toNat_ofNat (by omega) (by omega)) (start?_two hlow hhigh),
    decodeFrom_last rfl (by simp) (by simp; omega)]
  simp only [hbits]

theorem decodeFrom_three (hlow : 0x800 ≤ n) (hhigh : n < 0x10000)
    (hhalf : surrogates = false → n < 0xd800 ∨ 0xe000 ≤ n) :
    decodeFrom surrogates none offset
        (UInt8.ofNat (0xe0 + n / 0x1000) :: tail (n / 0x40) :: tail n :: bs) =
      (decodeFrom surrogates none (offset + 3) bs).map (CodePoint.ofNat n :: ·) := by
  have hbits : (n / 0x1000 * 0x40 + n / 0x40 % 0x40) * 0x40 + n % 0x40 = n := by omega
  -- The second byte is where halves of surrogate pairs are told from characters.
  have hsecond : 0x80 + n / 0x40 % 0x40 ≤
      if 0xd000 ≤ n ∧ n < 0xe000 ∧ !surrogates then 0x9f else 0xbf := by
    split
    · next h =>
      have hplain := hhalf (by simpa using h.2.2)
      omega
    · omega
  rw [decodeFrom_start (le_toNat_ofNat (by omega) (by omega)) (start?_three hhigh),
    decodeFrom_more rfl (by simp only; split <;> omega) hsecond,
    decodeFrom_last rfl (by simp) (by simp; omega)]
  simp only [hbits]

theorem decodeFrom_four (hlow : 0x10000 ≤ n) (hhigh : n < 0x110000) :
    decodeFrom surrogates none offset (UInt8.ofNat (0xf0 + n / 0x40000) :: tail (n / 0x1000) ::
        tail (n / 0x40) :: tail n :: bs) =
      (decodeFrom surrogates none (offset + 4) bs).map (CodePoint.ofNat n :: ·) := by
  have hbits : ((n / 0x40000 * 0x40 + n / 0x1000 % 0x40) * 0x40 + n / 0x40 % 0x40) * 0x40 +
      n % 0x40 = n := by omega
  rw [decodeFrom_start (le_toNat_ofNat (by omega) (by omega)) (start?_four hlow hhigh),
    decodeFrom_more rfl (by simp only; split <;> omega) (by simp only; split <;> omega),
    decodeFrom_more rfl (by simp) (by simp; omega),
    decodeFrom_last rfl (by simp) (by simp; omega)]
  simp only [hbits]

/-- The bytes of a character are read as the character, and those of half a surrogate pair
    where they may pass. -/
theorem decodeFrom_encodeCodePoint (hc : surrogates = false → c.isHalf = false) (offset : Nat)
    (bs : Bytes) :
    decodeFrom surrogates none offset (encodeCodePoint c ++ bs) =
      (decodeFrom surrogates none (offset + (encodeCodePoint c).length) bs).map (c :: ·) := by
  have hhalf : surrogates = false → c.toNat < 0xd800 ∨ 0xe000 ≤ c.toNat :=
    fun hs => (c.valid_of_isHalf_eq_false (hc hs)).1
  have hlt := c.toNat_lt
  have hself := c.ofNat_toNat
  rw [encodeCodePoint]
  generalize c.toNat = n at hhalf hlt hself
  subst hself
  split
  · next h => exact decodeFrom_ascii h
  split
  · next h₁ h₂ => exact decodeFrom_two (Nat.le_of_not_lt h₁) h₂
  split
  · next h₁ h₂ h₃ => exact decodeFrom_three (Nat.le_of_not_lt h₂) h₃ hhalf
  · next h₁ h₂ h₃ => exact decodeFrom_four (Nat.le_of_not_lt h₃) hlt

theorem decodeFrom_encode {t : Text} (h : surrogates = false → ∀ c ∈ t, c.isHalf = false)
    (offset : Nat) : decodeFrom surrogates none offset (encode t) = .ok t := by
  induction t generalizing offset with
  | nil => rfl
  | cons c t ih =>
    rw [encode, List.flatMap_cons,
      decodeFrom_encodeCodePoint fun hs => h hs c List.mem_cons_self]
    exact congrArg _ (ih (fun hs c hc => h hs c (List.mem_cons_of_mem _ hc)) _)

/-- The bytes of a text without halves of surrogate pairs are read as the text. -/
theorem decode_encode {t : Text} (h : ∀ c ∈ t, c.isHalf = false) : decode (encode t) = .ok t :=
  decodeFrom_encode (fun _ => h) 0

/-- Different texts have different bytes. -/
theorem encode_inj {t u : Text} : encode t = encode u ↔ t = u := by
  refine ⟨fun h => ?_, congrArg encode⟩
  have hread (t : Text) : decodeFrom true none 0 (encode t) = .ok t :=
    decodeFrom_encode (fun hs : true = false => absurd hs (by decide)) 0
  exact Except.ok.inj ((hread t).symm.trans (h ▸ hread u))

/-! ## What is read -/

/-- The bytes that complete a character, with the number that it has then. -/
inductive Pending.Completes : Pending → Bytes → Nat → Prop where
  | last {p : Pending} {b : UInt8} (hmore : p.more = 0) (hb : p.low ≤ b.toNat ∧ b.toNat ≤ p.high) :
    Completes p [b] (p.bits * 0x40 + (b.toNat - 0x80))
  | next {p : Pending} {b : UInt8} {more n : Nat} {bs : Bytes} (hmore : p.more = more + 1)
    (hb : p.low ≤ b.toNat ∧ b.toNat ≤ p.high)
    (h : Completes ⟨p.seen ++ [b], p.bits * 0x40 + (b.toNat - 0x80), more, 0x80, 0xbf⟩ bs n) :
    Completes p (b :: bs) n

/-- However the character is completed, the bytes read and those to come are its bytes. -/
def Pending.Fits (surrogates : Bool) (p : Pending) : Prop :=
  ∀ bs n, p.Completes bs n → encodeCodePoint (.ofNat n) = p.seen ++ bs ∧
    (surrogates = false → (CodePoint.ofNat n).isHalf = false)

theorem eq_ofNat {b : UInt8} (h : b.toNat = n) : UInt8.ofNat n = b := by
  rw [← h, UInt8.ofNat_toNat]

theorem isHalf_ofNat_eq_false (h : n < 0xd800 ∨ 0xe000 ≤ n) (hn : n < 0x110000) :
    (CodePoint.ofNat n).isHalf = false := by
  have hvalid : n.isValidChar := by
    rw [Nat.isValidChar]
    omega
  rw [CodePoint.ofNat, dif_pos hvalid]
  rfl

section

variable {b : UInt8}

theorem fits_two (hb : 0xc2 ≤ b.toNat ∧ b.toNat ≤ 0xdf) :
    Pending.Fits surrogates ⟨[b], b.toNat - 0xc0, 0, 0x80, 0xbf⟩ := by
  intro bs n hn
  cases hn with
  | next hmore => contradiction
  | @last _ c _ hc =>
    dsimp only at hc ⊢
    generalize hn : (b.toNat - 0xc0) * 0x40 + (c.toNat - 0x80) = n
    have hfirst : UInt8.ofNat (0xc0 + n / 0x40) = b := eq_ofNat (by omega)
    have hlast : tail n = c := eq_ofNat (by omega)
    refine ⟨?_, fun _ => isHalf_ofNat_eq_false (by omega) (by omega)⟩
    rw [encodeCodePoint, CodePoint.toNat_ofNat (by omega), if_neg (by omega), if_pos (by omega),
      hfirst, hlast]
    rfl

theorem fits_three (hb : 0xe0 ≤ b.toNat ∧ b.toNat ≤ 0xef) :
    Pending.Fits surrogates ⟨[b], b.toNat - 0xe0, 1, if b.toNat = 0xe0 then 0xa0 else 0x80,
      if b.toNat = 0xed ∧ !surrogates then 0x9f else 0xbf⟩ := by
  intro bs n hn
  cases hn with
  | last hmore => contradiction
  | @next _ c _ _ _ hmore hc hn =>
  obtain rfl := Nat.succ.inj hmore
  cases hn with
  | next hmore => contradiction
  | @last _ d _ hd =>
    dsimp only at hc hd ⊢
    generalize hn : ((b.toNat - 0xe0) * 0x40 + (c.toNat - 0x80)) * 0x40 + (d.toNat - 0x80) = n
    -- The bounds of the second byte leave out what two bytes are enough for, and the halves
    -- of surrogate pairs.
    have hlow : 0x80 ≤ c.toNat ∧ (b.toNat = 0xe0 → 0xa0 ≤ c.toNat) := by
      have h := hc.1
      split at h <;> omega
    have hhigh : c.toNat ≤ 0xbf ∧ (surrogates = false → b.toNat = 0xed → c.toNat ≤ 0x9f) := by
      have h := hc.2
      split at h
      · omega
      · next hnot => exact ⟨h, fun hs hb => absurd ⟨hb, by simp [hs]⟩ hnot⟩
    have hfirst : UInt8.ofNat (0xe0 + n / 0x1000) = b := eq_ofNat (by omega)
    have hmiddle : tail (n / 0x40) = c := eq_ofNat (by omega)
    have hlast : tail n = d := eq_ofNat (by omega)
    refine ⟨?_, fun hs => isHalf_ofNat_eq_false ?_ (by omega)⟩
    · rw [encodeCodePoint, CodePoint.toNat_ofNat (by omega), if_neg (by omega),
        if_neg (by omega), if_pos (by omega), hfirst, hmiddle, hlast]
      rfl
    · have hplain := hhigh.2 hs
      omega

theorem fits_four (hb : 0xf0 ≤ b.toNat ∧ b.toNat ≤ 0xf4) :
    Pending.Fits surrogates ⟨[b], b.toNat - 0xf0, 2, if b.toNat = 0xf0 then 0x90 else 0x80,
      if b.toNat = 0xf4 then 0x8f else 0xbf⟩ := by
  intro bs n hn
  cases hn with
  | last hmore => contradiction
  | @next _ c _ _ _ hmore hc hn =>
  obtain rfl := Nat.succ.inj hmore
  cases hn with
  | last hmore => contradiction
  | @next _ d _ _ _ hmore hd hn =>
  obtain rfl := Nat.succ.inj hmore
  cases hn with
  | next hmore => contradiction
  | @last _ e _ he =>
    dsimp only at hc hd he ⊢
    generalize hn : (((b.toNat - 0xf0) * 0x40 + (c.toNat - 0x80)) * 0x40 + (d.toNat - 0x80)) *
      0x40 + (e.toNat - 0x80) = n
    -- Here they leave out what three bytes are enough for, and what is beyond Unicode.
    have hlow : 0x80 ≤ c.toNat ∧ (b.toNat = 0xf0 → 0x90 ≤ c.toNat) := by
      have h := hc.1
      split at h <;> omega
    have hhigh : c.toNat ≤ 0xbf ∧ (b.toNat = 0xf4 → c.toNat ≤ 0x8f) := by
      have h := hc.2
      split at h <;> omega
    have hfirst : UInt8.ofNat (0xf0 + n / 0x40000) = b := eq_ofNat (by omega)
    have hsecond : tail (n / 0x1000) = c := eq_ofNat (by omega)
    have hthird : tail (n / 0x40) = d := eq_ofNat (by omega)
    have hlast : tail n = e := eq_ofNat (by omega)
    refine ⟨?_, fun _ => isHalf_ofNat_eq_false (by omega) (by omega)⟩
    rw [encodeCodePoint, CodePoint.toNat_ofNat (by omega), if_neg (by omega),
      if_neg (by omega), if_neg (by omega), hfirst, hsecond, hthird, hlast]
    rfl

/-- The first byte of a character leaves only bytes to come that make it one. -/
theorem fits_of_start? (h : start? surrogates b = some p) :
    p.seen = [b] ∧ p.Fits surrogates := by
  rw [start?] at h
  split at h
  · next hb =>
    obtain rfl := Option.some.inj h
    exact ⟨rfl, fits_two hb⟩
  split at h
  · next hb =>
    obtain rfl := Option.some.inj h
    exact ⟨rfl, fits_three hb⟩
  split at h
  · next hb =>
    obtain rfl := Option.some.inj h
    exact ⟨rfl, fits_four hb⟩
  · contradiction

end

/-- Whatever is read has the bytes that it is read from. -/
theorem encode_of_decodeFrom {pending : Option Pending} {t : Text}
    (hp : ∀ p ∈ pending, p.Fits surrogates)
    (h : decodeFrom surrogates pending offset bs = .ok t) :
    encode t = pending.elim [] Pending.seen ++ bs ∧
      (surrogates = false → ∀ c ∈ t, c.isHalf = false) := by
  -- Along the bytes, in between of which a character may be unfinished: then what was seen
  -- of it belongs to the bytes of the text.
  induction bs generalizing pending offset t with
  | nil =>
    cases pending with
    | none =>
      obtain rfl := Except.ok.inj h
      exact ⟨rfl, fun _ => List.forall_mem_nil _⟩
    | some p => contradiction
  | cons b bs ih =>
    cases pending with
    | none =>
      rw [decodeFrom] at h
      split at h
      · next hlt =>
        obtain ⟨t', ht', rfl⟩ := exists_of_map_eq_ok h
        obtain ⟨hencode, hwhole⟩ := ih (by simp) ht'
        have hlt : b.toNat < 0x80 := UInt8.lt_iff_toNat_lt.1 hlt
        have hb : encodeCodePoint (.ofNat b.toNat) = [b] := by
          rw [encodeCodePoint, CodePoint.toNat_ofNat (Nat.lt_trans hlt (by decide)), if_pos hlt,
            UInt8.ofNat_toNat]
        refine ⟨?_, fun hs => List.forall_mem_cons.2 ⟨?_, hwhole hs⟩⟩
        · rw [encode, List.flatMap_cons, hb]
          exact congrArg (b :: ·) hencode
        · exact isHalf_ofNat_eq_false (.inl (Nat.lt_trans hlt (by decide)))
            (Nat.lt_trans hlt (by decide))
      · split at h
        · next p hstart =>
          obtain ⟨hseen, hfits⟩ := fits_of_start? hstart
          have hread := ih (by simpa using hfits) h
          rwa [Option.elim_some, hseen] at hread
        · contradiction
    | some p =>
      have hfits := hp p rfl
      rw [decodeFrom] at h
      split at h
      · next hb =>
        split at h
        · next hmore =>
          obtain ⟨t', ht', rfl⟩ := exists_of_map_eq_ok h
          obtain ⟨hencode, hwhole⟩ := ih (by simp) ht'
          obtain ⟨hcode, hhalf⟩ := hfits _ _ (.last hmore hb)
          refine ⟨?_, fun hs => List.forall_mem_cons.2 ⟨hhalf hs, hwhole hs⟩⟩
          rw [encode, List.flatMap_cons, hcode, ← encode, hencode]
          simp
        · next more hmore =>
          have hread := fun hnext => ih hnext h
          have hencoded := hread <| by
            rintro _ ⟨⟩ bs n hn
            simpa using hfits _ _ (.next hmore hb hn)
          simpa using hencoded
      · contradiction

/-- The bytes that are read as a text are those of the text. -/
theorem decode_eq_ok_iff {t : Text} :
    decode bs = .ok t ↔ (∀ c ∈ t, c.isHalf = false) ∧ encode t = bs := by
  constructor
  · intro h
    obtain ⟨hencode, hwhole⟩ := encode_of_decodeFrom (fun _ hp => by contradiction) h
    exact ⟨hwhole rfl, hencode⟩
  · rintro ⟨hwhole, rfl⟩
    exact decode_encode hwhole

/-- The bytes are those of the text, in which no half of a surrogate pair is. -/
def IsTextOf (t : Text) (bs : Bytes) : Prop := (∀ c ∈ t, c.isHalf = false) ∧ encode t = bs

theorem isTextOf_iff {t : Text} : IsTextOf t bs ↔ decode bs = .ok t := decode_eq_ok_iff.symm

/-- Bytes are those of one text at most. -/
theorem IsTextOf.unique {t t' : Text} (h : IsTextOf t bs) (h' : IsTextOf t' bs) : t = t' := by
  rw [isTextOf_iff] at h h'
  exact Except.ok.inj (h.symm.trans h')

theorem forall_not_isTextOf_iff : (∀ t, ¬IsTextOf t bs) ↔ ∃ e, decode bs = .error e := by
  simp only [isTextOf_iff]
  cases decode bs <;> simp

end Depot.Utf8
