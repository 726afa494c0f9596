import MemoryListing.Proofs.SoundStarts

/-!
# Where the reading of a number stops

A text that is no written number is refused at the leftmost place where it cannot be
one. Among the starts of what stands behind the signs there is a shortest one that is
not sound (`Hex.ShortestUnsound`), and its last byte alone decides the complaint: an
underscore is a stray one, a digit makes the value too large, and any other byte is no
digit. Nothing behind it is looked at, so the complaint is the same whatever follows
(`Hex.read_of_shortestUnsound`). What is sound to its end can still lack a digit, or end
in an underscore.

All bytes ahead of the deciding one are ASCII characters. A complaint about a byte that
is no digit is therefore about the first byte of a character of the text, never about one
from the midst of a character (`Hex.exists_char_of_shortestUnsound`).
-/

namespace MemoryListing

namespace Hex

/-- **The shortest start of some bytes that is not sound.** -/
structure ShortestUnsound (based : Bool) (d q : List UInt8) : Prop where
  /-- It is a start of the bytes. -/
  starts : q <+: d
  /-- It is not sound. -/
  unsound : ¬ Sound based q
  /-- No shorter start is unsound. -/
  shortest : ∀ q', q' <+: d → ¬ Sound based q' → q.length ≤ q'.length

variable {based : Bool} {d p q : List UInt8} {t : Text}

/-- The starts of a sound start are sound. -/
theorem Sound.of_prefix (h : Sound based p) (hq : q <+: p) : Sound based q := by
  obtain ⟨r, rfl⟩ := hq
  induction r using List.reverseRecOn with
  | nil => rwa [List.append_nil] at h
  | append_singleton r b ih =>
    rw [← List.append_assoc] at h
    exact ih (sound_concat_iff.1 h).1

/-- What is not sound has a shortest start that is not. -/
theorem exists_shortestUnsound (h : ¬ Sound based d) : ∃ q, ShortestUnsound based d q := by
  obtain ⟨p, b, rest, rfl, hp, hb⟩ := exists_sound_of_not_sound h
  refine ⟨p ++ [b], ⟨rest, by simp⟩, hb, ?_⟩
  intro q' hq' hunsound
  rw [List.length_append, List.length_singleton]
  refine Nat.succ_le_of_lt (Nat.lt_of_not_le fun hle => hunsound ?_)
  exact hp.of_prefix (List.prefix_of_prefix_length_le hq' (List.prefix_append _ _) hle)

/-- **The shortest unsound start is a sound one and a byte.** -/
theorem ShortestUnsound.exists_concat (h : ShortestUnsound based d q) :
    ∃ p b, q = p ++ [b] ∧ Sound based p := by
  rcases List.eq_nil_or_concat' q with rfl | ⟨p, b, rfl⟩
  · exact absurd sound_nil h.unsound
  · refine ⟨p, b, rfl, ?_⟩
    by_contra hunsound
    have hle := h.shortest p ((List.prefix_append p [b]).trans h.starts) hunsound
    rw [List.length_append, List.length_singleton] at hle
    omega

/-! ## What follows the deciding byte -/

/-- A sign that starts behind the signs of one text starts there in every text that goes
on alike up to a start that is not sound. -/
theorem prefix_of_unsound {s u : Text} (hs : s = "+".toList ∨ s = "0x".toList ∨ s = "0X".toList)
    (hunsound : ¬ Sound based q) (hq : q <+: Text.bytes u) (hsu : s <+: u) {rest : Text}
    (hrest : q <+: Text.bytes rest) : s <+: rest := by
  have hbytes : Text.bytes s <+: Text.bytes u := by
    obtain ⟨v, rfl⟩ := hsu
    rw [Text.bytes_append]
    exact List.prefix_append _ _
  -- a part of the sign without its last byte would be sound
  have hsq : Text.bytes s <+: q := by
    rcases List.prefix_or_prefix_of_prefix hbytes hq with h | h
    · exact h
    · have hshort : ∀ p b, Text.bytes s = p ++ [b] → Sound based p → Text.bytes s <+: q := by
        intro p b hp hsound
        rw [hp] at h ⊢
        rcases List.prefix_concat_iff.1 h with rfl | h
        · exact List.prefix_refl _
        · exact absurd (hsound.of_prefix h) hunsound
      have hzero : Sound based [0x30] :=
        sound_concat_iff.2 ⟨sound_nil, .inr ⟨0, by decide, by decide⟩⟩
      rcases hs with rfl | rfl | rfl
      · exact hshort [] 0x2b rfl sound_nil
      · exact hshort [0x30] 0x78 rfl hzero
      · exact hshort [0x30] 0x58 rfl hzero
  exact Text.prefix_of_bytes_prefix (lt_of_mem_sign hs) (hsq.trans hrest)

/-- **A text that starts like another one, up to a start that is not sound, opens with the
same signs.** -/
theorem Opening.exists_of_prefix (o : Opening t) (h : ShortestUnsound o.based o.digits q)
    {t' : Text} (ht' : o.signs ++ q <+: t'.bytes) :
    ∃ o' : Opening t', o'.based = o.based ∧ q <+: o'.digits := by
  obtain ⟨more, hmore⟩ := ht'
  rw [List.append_assoc] at hmore
  obtain ⟨u, hu, hbytes⟩ := Text.eq_append_of_bytes_eq o.signs_lt hmore.symm
  have hq : q <+: Text.bytes u := ⟨more, hbytes.symm⟩
  rw [o.map_toChar_signs] at hu
  refine ⟨⟨o.sign, o.base, u, hu, o.sign_eq, o.base_eq, ?_, ?_⟩, rfl, hq⟩
  · intro hnil hplus
    rw [hu, hnil, List.nil_append] at hplus
    have ht := o.text_eq
    rw [hnil, List.nil_append] at ht
    refine o.no_sign hnil ?_
    rw [ht]
    rcases o.base_eq with hb | hb | hb
    · rw [hb, List.nil_append] at hplus ⊢
      exact prefix_of_unsound (.inl rfl) h.unsound hq hplus h.starts
    · rw [hb] at hplus
      exact absurd (List.cons_prefix_cons.1 hplus).1 (by decide)
    · rw [hb] at hplus
      exact absurd (List.cons_prefix_cons.1 hplus).1 (by decide)
  · intro hnil
    obtain ⟨hx, hX⟩ := o.no_base hnil
    exact ⟨fun hu => hx (prefix_of_unsound (.inr (.inl rfl)) h.unsound hq hu h.starts),
      fun hu => hX (prefix_of_unsound (.inr (.inr rfl)) h.unsound hq hu h.starts)⟩

/-- **The last byte of the shortest unsound start decides**, and the complaint is the same
for every text that goes on from there. -/
theorem read_of_shortestUnsound (o : Opening t) (h : ShortestUnsound o.based o.digits q)
    {b : UInt8} (hb : q.getLast? = some b) {t' : Text} (ht' : o.signs ++ q <+: t'.bytes) :
    read t' = .error (complaint b) := by
  obtain ⟨o', hbased, more, hmore⟩ := o.exists_of_prefix h ht'
  obtain ⟨p, c, rfl, hp⟩ := h.exists_concat
  rw [List.getLast?_concat, Option.some.injEq] at hb
  obtain rfl := hb
  rw [o'.read_eq, hbased, ← hmore, List.append_assoc, readDigits_append_of_sound hp]
  exact readDigits_of_unsound_concat hp h.unsound more

theorem ShortestUnsound.signs_append_prefix {o : Opening t}
    (h : ShortestUnsound o.based o.digits q) : o.signs ++ q <+: t.bytes := by
  rw [o.bytes_eq]
  exact (List.prefix_append_right_inj _).2 h.starts

/-! ## The character of the deciding byte -/

/-- **The deciding byte is the first byte of a character**, and the characters ahead of it
are the signs and the sound start. -/
theorem exists_char_of_shortestUnsound (o : Opening t) {b : UInt8}
    (h : ShortestUnsound o.based o.digits (p ++ [b])) :
    ∃ before c after, t = before ++ c :: after ∧ Text.bytes before = o.signs ++ p ∧
      (Text.bytes [c]).head? = some b ∧ ¬ (0x80 ≤ b ∧ b < 0xc0) := by
  obtain ⟨p', b', heq, hp⟩ := h.exists_concat
  obtain ⟨rfl, -⟩ := List.append_inj' heq rfl
  have hlt : ∀ a ∈ o.signs ++ p, a < 0x80 := by
    intro a ha
    rcases List.mem_append.1 ha with ha | ha
    · exact o.signs_lt a ha
    · exact hp.lt a ha
  obtain ⟨more, hmore⟩ := h.signs_append_prefix
  rw [← List.append_assoc, List.append_assoc] at hmore
  obtain ⟨u, hu, hbytes⟩ := Text.eq_append_of_bytes_eq hlt hmore.symm
  cases u with
  | nil => cases hbytes
  | cons c after =>
    obtain ⟨b'', bs, hc, hfirst⟩ := Text.exists_utf8EncodeChar_eq_cons c
    have hcons : String.utf8EncodeChar c ++ Text.bytes after = b :: more := hbytes
    rw [hc, List.cons_append] at hcons
    obtain ⟨rfl, -⟩ := List.cons.inj hcons
    refine ⟨_, c, after, hu, ?_, ?_, ?_⟩
    · -- the bytes of the whole text are split at the same place
      have hwhole := congrArg Text.bytes hu
      rw [Text.bytes_append, ← hmore, hbytes] at hwhole
      exact (List.append_cancel_right hwhole).symm
    · show (String.utf8EncodeChar c ++ []).head? = some b''
      rw [hc]
      rfl
    · rintro ⟨hge, hlt'⟩
      rcases hfirst with ⟨hascii, rfl, -⟩ | ⟨-, hge'⟩
      · exact absurd (UInt8.le_iff_toNat_le.1 hge) (Nat.not_le.2 hascii)
      · exact absurd hlt' (UInt8.not_lt.2 hge')

/-! ## All texts -/

/-- What is sound and ends in something else than an underscore may be separated there. -/
theorem Sound.separable_iff (h : Sound based p) (hne : digitsIn p ≠ []) :
    separable based p = true ↔ p.getLast? ≠ some 0x5f := by
  rcases List.eq_nil_or_concat' p with rfl | ⟨q, b, rfl⟩
  · exact absurd rfl hne
  · rw [separable_concat, List.getLast?_concat, ne_eq, Option.some.injEq]
    constructor
    · rintro hd rfl
      cases hd
    · intro hb
      exact (h.symbols b (List.mem_append_right _ List.mem_cons_self)).resolve_left hb

/-- **Every text is refused at the leftmost place where it is no written number.** Where
the bytes behind the signs are not sound, their shortest unsound start decides by its last
byte, whatever follows it. Where they are sound, there may be no digit or an underscore at
the end, and otherwise the text is read. A byte that is complained about as no digit is the
first byte of a character. -/
theorem read_stops_leftmost (t : Text) :
    Nonempty (Opening t) ∧ ∀ o : Opening t,
      (¬ Sound o.based o.digits → ∃ q b, ShortestUnsound o.based o.digits q ∧
        q.getLast? = some b ∧ read t = .error (complaint b) ∧
        ∀ t' : Text, o.signs ++ q <+: t'.bytes → read t' = .error (complaint b)) ∧
      (Sound o.based o.digits →
        (digitsIn o.digits = [] → read t = .error .noDigits) ∧
        (digitsIn o.digits ≠ [] → o.digits.getLast? = some 0x5f →
          read t = .error .strayUnderscore) ∧
        (digitsIn o.digits ≠ [] → o.digits.getLast? ≠ some 0x5f →
          ∃ v, read t = .ok v ∧ v.toNat = valueIn o.digits)) ∧
      ∀ b, read t = .error (.badDigit b) → ∃ p before c after,
        ShortestUnsound o.based o.digits (p ++ [b]) ∧
        t = before ++ c :: after ∧ Text.bytes before = o.signs ++ p ∧
        (Text.bytes [c]).head? = some b ∧ ¬ (0x80 ≤ b ∧ b < 0xc0) := by
  refine ⟨Opening.nonempty t, fun o => ⟨?_, ?_, ?_⟩⟩
  · intro hunsound
    obtain ⟨q, hq⟩ := exists_shortestUnsound hunsound
    obtain ⟨p, b, rfl, -⟩ := hq.exists_concat
    have hlast : (p ++ [b]).getLast? = some b := List.getLast?_concat
    exact ⟨_, b, hq, hlast, read_of_shortestUnsound o hq hlast hq.signs_append_prefix,
      fun t' ht' => read_of_shortestUnsound o hq hlast ht'⟩
  · intro hsound
    rw [o.read_eq, readDigits_of_sound hsound]
    refine ⟨fun hnil => if_pos hnil, ?_, ?_⟩
    · intro hne hlast
      have hseparable : ¬ separable o.based o.digits = true := by
        rw [hsound.separable_iff hne, hlast]
        exact fun h => h rfl
      rw [if_neg hne, if_neg hseparable]
    · intro hne hlast
      rw [if_neg hne, if_pos ((hsound.separable_iff hne).2 hlast)]
      exact ⟨_, rfl, UInt32.toNat_ofNat_of_lt' hsound.fits⟩
  · intro b hread
    have hunsound : ¬ Sound o.based o.digits := by
      intro hsound
      rw [o.read_eq, readDigits_of_sound hsound] at hread
      split at hread
      next => cases hread
      next =>
        split at hread
        next => cases hread
        next => cases hread
    obtain ⟨q, hq⟩ := exists_shortestUnsound hunsound
    obtain ⟨p, b', rfl, -⟩ := hq.exists_concat
    rw [read_of_shortestUnsound o hq List.getLast?_concat hq.signs_append_prefix] at hread
    have hb : b' = b := by
      unfold complaint at hread
      split at hread
      next => cases hread
      next =>
        split at hread
        next => cases hread
        next =>
          cases hread
          rfl
    rw [hb] at hq
    obtain ⟨before, c, after, htext, hbefore, hfirst, hcontinues⟩ :=
      exists_char_of_shortestUnsound o hq
    exact ⟨p, before, c, after, hq, htext, hbefore, hfirst, hcontinues⟩

end Hex

end MemoryListing
