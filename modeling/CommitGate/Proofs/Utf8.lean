import CommitGate.Files
import Mathlib.Data.List.Basic

/-!
# Reading bytes as text

Bytes that are read strictly have a text just if they are the UTF-8 form of that text. What is
pending while a sequence is read says which bytes may complete it; a sequence that is completed is the
form of its character, and the form of a character is such a sequence.
-/

namespace CommitGate.Utf8

variable {p : Pending} {b d e f : UInt8} {ds bs rest : List UInt8} {v : Nat} {c : Char}
  {os : List (Option Char)} {t : Text}

/-! ## Sequences that are completed -/

/-- Bytes that complete what is pending; its payload is then the given number. -/
inductive Completes : Pending → List UInt8 → Nat → Prop where
  | last {p : Pending} {b : UInt8} (howed : p.owed ≤ 1) (hlow : p.low ≤ b.toNat)
      (hhigh : b.toNat ≤ p.high) : Completes p [b] (p.value * 64 + (b.toNat - 0x80))
  | more {p : Pending} {b : UInt8} {ds : List UInt8} {v : Nat} (howed : 1 < p.owed)
      (hlow : p.low ≤ b.toNat) (hhigh : b.toNat ≤ p.high)
      (h : Completes ⟨p.owed - 1, 0x80, 0xBF, p.value * 64 + (b.toNat - 0x80)⟩ ds v) :
      Completes p (b :: ds) v

theorem completes_iff_of_owed_le_one (h : p.owed ≤ 1) : Completes p ds v ↔
    ∃ b, ds = [b] ∧ p.low ≤ b.toNat ∧ b.toNat ≤ p.high ∧
      v = p.value * 64 + (b.toNat - 0x80) := by
  constructor
  · intro hcompletes
    cases hcompletes with
    | @last _ b _ hlow hhigh => exact ⟨b, rfl, hlow, hhigh, rfl⟩
    | more howed => omega
  · rintro ⟨b, rfl, hlow, hhigh, hv⟩
    rw [hv]
    exact .last h hlow hhigh

theorem completes_iff_of_one_lt_owed (h : 1 < p.owed) : Completes p ds v ↔
    ∃ b rest, ds = b :: rest ∧ p.low ≤ b.toNat ∧ b.toNat ≤ p.high ∧
      Completes ⟨p.owed - 1, 0x80, 0xBF, p.value * 64 + (b.toNat - 0x80)⟩ rest v := by
  constructor
  · intro hcompletes
    cases hcompletes with
    | last howed => omega
    | @more _ b rest _ _ hlow hhigh hrest => exact ⟨b, rest, rfl, hlow, hhigh, hrest⟩
  · rintro ⟨b, rest, rfl, hlow, hhigh, hrest⟩
    exact .more h hlow hhigh hrest

theorem parts_some_cons (p : Pending) (b : UInt8) (rest : List UInt8) :
    ∃ os, parts (some p) (b :: rest) =
      if p.low ≤ b.toNat ∧ b.toNat ≤ p.high then
        if p.owed ≤ 1 then some (Char.ofNat (p.value * 64 + (b.toNat - 0x80))) :: parts none rest
        else parts (some ⟨p.owed - 1, 0x80, 0xBF, p.value * 64 + (b.toNat - 0x80)⟩) rest
      else none :: os := by
  rw [parts]
  exact ⟨_, rfl⟩

theorem Completes.parts_eq (h : Completes p ds v) (rest : List UInt8) :
    parts (some p) (ds ++ rest) = some (Char.ofNat v) :: parts none rest := by
  induction h with
  | @last p b howed hlow hhigh =>
    obtain ⟨os, hparts⟩ := parts_some_cons p b rest
    rw [List.singleton_append, hparts, if_pos ⟨hlow, hhigh⟩, if_pos howed]
  | @more p b ds v howed hlow hhigh _ ih =>
    obtain ⟨os, hparts⟩ := parts_some_cons p b (ds ++ rest)
    rw [List.cons_append, hparts, if_pos ⟨hlow, hhigh⟩, if_neg (by omega), ih]

theorem exists_completes (h : parts (some p) bs = some c :: os) :
    ∃ ds rest v, bs = ds ++ rest ∧ Completes p ds v ∧ c = Char.ofNat v ∧ parts none rest = os := by
  induction bs generalizing p with
  | nil => cases h
  | cons b rest ih =>
    obtain ⟨failed, hparts⟩ := parts_some_cons p b rest
    rw [hparts] at h
    split_ifs at h with hrange howed
    · obtain ⟨hc, hos⟩ := List.cons.inj h
      exact ⟨[b], rest, _, rfl, .last howed hrange.1 hrange.2, (Option.some.inj hc).symm, hos⟩
    · obtain ⟨ds, rest', v, rfl, hcompletes, hc, hos⟩ := ih h
      exact ⟨b :: ds, rest', v, rfl, .more (by omega) hrange.1 hrange.2 hcompletes, hc, hos⟩
    · cases (List.cons.inj h).1

theorem parts_some_ne_nil : parts (some p) bs ≠ [] := by
  induction bs generalizing p with
  | nil => exact List.cons_ne_nil _ _
  | cons b rest ih =>
    obtain ⟨os, hparts⟩ := parts_some_cons p b rest
    rw [hparts]
    split_ifs
    · exact List.cons_ne_nil _ _
    · exact ih
    · exact List.cons_ne_nil _ _

theorem parts_none_cons (b : UInt8) (rest : List UInt8) : parts none (b :: rest) =
    match lead b.toNat with
    | .ascii c => some c :: parts none rest
    | .opens p => parts (some p) rest
    | .malformed => none :: parts none rest :=
  rfl

theorem parts_none_eq_nil_iff : parts none bs = [] ↔ bs = [] := by
  cases bs with
  | nil => simp [parts]
  | cons b rest =>
    rw [parts_none_cons]
    cases lead b.toNat with
    | opens p => simp [parts_some_ne_nil]
    | ascii c => simp
    | malformed => simp

/-! ## The form of a character -/

theorem utf8EncodeChar_eq (c : Char) : String.utf8EncodeChar c =
    if c.toNat ≤ 0x7F then [UInt8.ofNat c.toNat]
    else if c.toNat ≤ 0x7FF then
      [UInt8.ofNat (c.toNat / 64 % 0x20 + 0xC0), UInt8.ofNat (c.toNat % 0x40 + 0x80)]
    else if c.toNat ≤ 0xFFFF then
      [UInt8.ofNat (c.toNat / 4096 % 0x10 + 0xE0), UInt8.ofNat (c.toNat / 64 % 0x40 + 0x80),
        UInt8.ofNat (c.toNat % 0x40 + 0x80)]
    else
      [UInt8.ofNat (c.toNat / 262144 % 0x08 + 0xF0), UInt8.ofNat (c.toNat / 4096 % 0x40 + 0x80),
        UInt8.ofNat (c.toNat / 64 % 0x40 + 0x80), UInt8.ofNat (c.toNat % 0x40 + 0x80)] :=
  rfl

/-- A byte that can follow the first one of a sequence. -/
def Follows (d : UInt8) : Prop := 0x80 ≤ d.toNat ∧ d.toNat ≤ 0xBF

/-- A first byte above the ASCII range and the bytes after it carry the bits of a number that can be
one of a character, and that needs all of these bytes. -/
inductive Spells (b : UInt8) : List UInt8 → Nat → Prop where
  | two {d : UInt8} {v : Nat} (hb : 0xC0 ≤ b.toNat ∧ b.toNat < 0xE0) (hd : Follows d)
      (hv : v = (b.toNat - 0xC0) * 64 + (d.toNat - 0x80)) (hsize : 0x80 ≤ v) : Spells b [d] v
  | three {d e : UInt8} {v : Nat} (hb : 0xE0 ≤ b.toNat ∧ b.toNat < 0xF0) (hd : Follows d)
      (he : Follows e) (hv : v = ((b.toNat - 0xE0) * 64 + (d.toNat - 0x80)) * 64 + (e.toNat - 0x80))
      (hsize : 0x800 ≤ v) (hvalid : v < 0xD800 ∨ 0xDFFF < v) : Spells b [d, e] v
  | four {d e f : UInt8} {v : Nat} (hb : 0xF0 ≤ b.toNat ∧ b.toNat < 0xF8) (hd : Follows d)
      (he : Follows e) (hf : Follows f)
      (hv : v = (((b.toNat - 0xF0) * 64 + (d.toNat - 0x80)) * 64 + (e.toNat - 0x80)) * 64 +
        (f.toNat - 0x80))
      (hsize : 0x10000 ≤ v) (hvalid : v < 0x110000) : Spells b [d, e, f] v

theorem ofNat_eq_of_toNat_eq (b : UInt8) {n : Nat} (h : b.toNat = n) : UInt8.ofNat n = b := by
  rw [← h, UInt8.ofNat_toNat]

theorem Spells.isValidChar (h : Spells b ds v) : v.isValidChar := by
  cases h with
  | two hb hd hv => exact .inl (by unfold Follows at hd; omega)
  | three hb hd he hv _ hvalid =>
    unfold Follows at hd he
    exact hvalid.imp_right fun hlow => ⟨hlow, by omega⟩
  | four _ _ _ _ _ hsize hvalid => exact .inr ⟨by omega, hvalid⟩

theorem Spells.utf8EncodeChar_eq (h : Spells b ds c.toNat) : String.utf8EncodeChar c = b :: ds := by
  rw [Utf8.utf8EncodeChar_eq]
  cases h with
  | @two d _ hb hd hv hsize =>
    unfold Follows at hd
    rw [if_neg (by omega), if_pos (by omega),
      ofNat_eq_of_toNat_eq b (by omega), ofNat_eq_of_toNat_eq d (by omega)]
  | @three d e _ hb hd he hv hsize =>
    unfold Follows at hd he
    rw [if_neg (by omega), if_neg (by omega), if_pos (by omega),
      ofNat_eq_of_toNat_eq b (by omega), ofNat_eq_of_toNat_eq d (by omega),
      ofNat_eq_of_toNat_eq e (by omega)]
  | @four d e f _ hb hd he hf hv hsize =>
    unfold Follows at hd he hf
    rw [if_neg (by omega), if_neg (by omega), if_neg (by omega),
      ofNat_eq_of_toNat_eq b (by omega), ofNat_eq_of_toNat_eq d (by omega),
      ofNat_eq_of_toNat_eq e (by omega), ofNat_eq_of_toNat_eq f (by omega)]

theorem exists_spells (hc : 0x80 ≤ c.toNat) : ∃ b ds, Spells b ds c.toNat := by
  have htoNat : ∀ n, n < 256 → (UInt8.ofNat n).toNat = n := fun n hn =>
    UInt8.toNat_ofNat_of_lt hn
  have hfollows : ∀ n, (UInt8.ofNat (n % 64 + 0x80)).toNat = n % 64 + 0x80 := fun n =>
    htoNat _ (by omega)
  have hfollow : ∀ n, Follows (UInt8.ofNat (n % 64 + 0x80)) := fun n => by
    rw [Follows, hfollows]
    omega
  have hvalid : c.toNat < 0xD800 ∨ 0xDFFF < c.toNat ∧ c.toNat < 0x110000 := c.valid
  by_cases htwo : c.toNat < 0x800
  · have hb := htoNat (c.toNat / 64 + 0xC0) (by omega)
    exact ⟨UInt8.ofNat (c.toNat / 64 + 0xC0), _, .two (by omega) (hfollow c.toNat) (by rw [hb, hfollows]; omega) hc⟩
  · by_cases hthree : c.toNat < 0x10000
    · have hb := htoNat (c.toNat / 4096 + 0xE0) (by omega)
      exact ⟨UInt8.ofNat (c.toNat / 4096 + 0xE0), _, .three (by omega) (hfollow (c.toNat / 64))
        (hfollow c.toNat) (by rw [hb, hfollows, hfollows]; omega) (by omega) (by omega)⟩
    · have hb := htoNat (c.toNat / 262144 + 0xF0) (by omega)
      exact ⟨UInt8.ofNat (c.toNat / 262144 + 0xF0), _, .four (by omega) (hfollow (c.toNat / 4096))
        (hfollow (c.toNat / 64)) (hfollow c.toNat) (by rw [hb, hfollows, hfollows, hfollows]; omega) (by omega) (by omega)⟩

/-! ## What a first byte leaves pending -/

theorem completes_one_iff {low high x : Nat} : Completes ⟨1, low, high, x⟩ ds v ↔
    ∃ d, ds = [d] ∧ low ≤ d.toNat ∧ d.toNat ≤ high ∧ v = x * 64 + (d.toNat - 0x80) :=
  completes_iff_of_owed_le_one (Nat.le_refl 1)

theorem completes_two_iff {low high x : Nat} : Completes ⟨2, low, high, x⟩ ds v ↔
    ∃ d e, ds = [d, e] ∧ low ≤ d.toNat ∧ d.toNat ≤ high ∧ Follows e ∧
      v = (x * 64 + (d.toNat - 0x80)) * 64 + (e.toNat - 0x80) := by
  rw [completes_iff_of_one_lt_owed Nat.one_lt_two]
  simp only [Nat.add_one_sub_one, completes_one_iff, Follows]
  constructor
  · rintro ⟨d, _, rfl, hlow, hhigh, e, rfl, helow, hehigh, hv⟩
    exact ⟨d, e, rfl, hlow, hhigh, ⟨helow, hehigh⟩, hv⟩
  · rintro ⟨d, e, rfl, hlow, hhigh, he, hv⟩
    exact ⟨d, [e], rfl, hlow, hhigh, e, rfl, he.1, he.2, hv⟩

theorem completes_three_iff {low high x : Nat} : Completes ⟨3, low, high, x⟩ ds v ↔
    ∃ d e f, ds = [d, e, f] ∧ low ≤ d.toNat ∧ d.toNat ≤ high ∧ Follows e ∧ Follows f ∧
      v = ((x * 64 + (d.toNat - 0x80)) * 64 + (e.toNat - 0x80)) * 64 + (f.toNat - 0x80) := by
  rw [completes_iff_of_one_lt_owed (Nat.lt_add_of_pos_left Nat.two_pos)]
  simp only [Nat.add_one_sub_one, completes_two_iff]
  constructor
  · rintro ⟨d, _, rfl, hlow, hhigh, e, f, rfl, helow, hehigh, hf, hv⟩
    exact ⟨d, e, f, rfl, hlow, hhigh, ⟨helow, hehigh⟩, hf, hv⟩
  · rintro ⟨d, e, f, rfl, hlow, hhigh, he, hf, hv⟩
    exact ⟨d, [e, f], rfl, hlow, hhigh, e, f, rfl, he.1, he.2, hf, hv⟩

theorem lead_eq_opens_iff {n : Nat} : lead n = .opens p ↔
    (0xC2 ≤ n ∧ n < 0xE0) ∧ p = ⟨1, 0x80, 0xBF, n - 0xC0⟩ ∨
    (0xE0 ≤ n ∧ n < 0xF0) ∧
      p = ⟨2, if n = 0xE0 then 0xA0 else 0x80, if n = 0xED then 0x9F else 0xBF, n - 0xE0⟩ ∨
    (0xF0 ≤ n ∧ n ≤ 0xF4) ∧
      p = ⟨3, if n = 0xF0 then 0x90 else 0x80, if n = 0xF4 then 0x8F else 0xBF, n - 0xF0⟩ := by
  fun_cases lead n <;> simp only [reduceCtorEq, false_iff, Lead.opens.injEq] <;> grind

/-- What a first byte leaves pending is completed just by the bytes that spell a number with it. -/
theorem exists_opens_iff : (∃ p, lead b.toNat = .opens p ∧ Completes p ds v) ↔ Spells b ds v := by
  simp only [lead_eq_opens_iff]
  -- the bounds on the second byte exclude just the numbers that need fewer bytes and those that are
  -- of no character
  constructor
  · rintro ⟨p, ⟨hb, rfl⟩ | ⟨hb, rfl⟩ | ⟨hb, rfl⟩, hcompletes⟩
    · obtain ⟨d, rfl, hd, hd', hv⟩ := completes_one_iff.mp hcompletes
      exact .two (by omega) ⟨hd, hd'⟩ hv (by omega)
    · obtain ⟨d, e, rfl, hd, hd', he, hv⟩ := completes_two_iff.mp hcompletes
      have hd'' : Follows d := ⟨by split_ifs at hd <;> omega, by split_ifs at hd' <;> omega⟩
      refine .three hb hd'' he hv ?_ ?_
      · split_ifs at hd <;> omega
      · unfold Follows at he hd''
        split_ifs at hd' <;> omega
    · obtain ⟨d, e, f, rfl, hd, hd', he, hf, hv⟩ := completes_three_iff.mp hcompletes
      have hd'' : Follows d := ⟨by split_ifs at hd <;> omega, by split_ifs at hd' <;> omega⟩
      refine .four (by omega) hd'' he hf hv ?_ ?_
      · split_ifs at hd <;> omega
      · unfold Follows at he hf hd''
        split_ifs at hd' <;> omega
  · intro h
    cases h with
    | @two d _ hb hd hv hsize =>
      unfold Follows at hd
      exact ⟨_, .inl ⟨by omega, rfl⟩, completes_one_iff.mpr ⟨d, rfl, hd.1, hd.2, hv⟩⟩
    | @three d e _ hb hd he hv hsize hvalid =>
      refine ⟨_, .inr (.inl ⟨hb, rfl⟩), completes_two_iff.mpr ⟨d, e, rfl, ?_, ?_, he, hv⟩⟩
      · unfold Follows at hd he
        split_ifs <;> omega
      · unfold Follows at hd he
        split_ifs <;> omega
    | @four d e f _ hb hd he hf hv hsize hvalid =>
      unfold Follows at hd he hf
      refine ⟨_, .inr (.inr ⟨by omega, rfl⟩),
        completes_three_iff.mpr ⟨d, e, f, rfl, ?_, ?_, he, hf, hv⟩⟩
      · split_ifs <;> omega
      · split_ifs <;> omega

/-! ## Texts -/

theorem toNat_ofNat (h : v.isValidChar) : (Char.ofNat v).toNat = v := by
  rw [Char.ofNat, dif_pos h]
  rfl

theorem lead_eq_ascii_iff {n : Nat} : lead n = .ascii c ↔ n < 0x80 ∧ c = Char.ofNat n := by
  fun_cases lead n <;> simp only [reduceCtorEq, false_iff, Lead.ascii.injEq] <;> grind

theorem parts_utf8EncodeChar (c : Char) (rest : List UInt8) :
    parts none (String.utf8EncodeChar c ++ rest) = some c :: parts none rest := by
  by_cases hc : c.toNat < 0x80
  · have hb : (UInt8.ofNat c.toNat).toNat = c.toNat := UInt8.toNat_ofNat_of_lt (Nat.lt_trans hc (by decide))
    rw [utf8EncodeChar_eq, if_pos (by omega), List.singleton_append, parts_none_cons, hb, lead,
      if_pos hc, Char.ofNat_toNat]
  · obtain ⟨b, ds, hspells⟩ := exists_spells (Nat.le_of_not_lt hc)
    obtain ⟨p, hlead, hcompletes⟩ := exists_opens_iff.mpr hspells
    rw [hspells.utf8EncodeChar_eq, List.cons_append, parts_none_cons, hlead]
    show parts (some p) (ds ++ rest) = _
    rw [hcompletes.parts_eq, Char.ofNat_toNat]

theorem exists_utf8EncodeChar (h : parts none bs = some c :: os) :
    ∃ rest, bs = String.utf8EncodeChar c ++ rest ∧ parts none rest = os := by
  cases bs with
  | nil => cases h
  | cons b rest =>
    rw [parts_none_cons] at h
    cases hlead : lead b.toNat with
    | ascii c' =>
      rw [hlead] at h
      obtain ⟨hc, hos⟩ := List.cons.inj h
      obtain ⟨hb, hc'⟩ := lead_eq_ascii_iff.mp hlead
      obtain rfl : c = Char.ofNat b.toNat := (Option.some.inj hc).symm.trans hc'
      have hv : (Char.ofNat b.toNat).toNat = b.toNat := toNat_ofNat (.inl (by omega))
      refine ⟨rest, ?_, hos⟩
      rw [utf8EncodeChar_eq, hv, if_pos (by omega), UInt8.ofNat_toNat, List.singleton_append]
    | opens p =>
      rw [hlead] at h
      obtain ⟨ds, rest', v, rfl, hcompletes, rfl, hos⟩ := exists_completes h
      have hspells := exists_opens_iff.mp ⟨p, hlead, hcompletes⟩
      have hv : (Char.ofNat v).toNat = v := toNat_ofNat hspells.isValidChar
      refine ⟨rest', ?_, hos⟩
      rw [Spells.utf8EncodeChar_eq (hv.symm ▸ hspells), List.cons_append]
    | malformed =>
      rw [hlead] at h
      cases (List.cons.inj h).1

theorem parts_bytes (t : Text) : parts none t.bytes = t.map some := by
  induction t with
  | nil => rfl
  | cons c rest ih =>
    rw [Text.bytes_cons, parts_utf8EncodeChar, ih, List.map_cons]

theorem bytes_eq_of_parts (h : parts none bs = t.map some) : t.bytes = bs := by
  induction t generalizing bs with
  | nil => exact (parts_none_eq_nil_iff.mp h).symm
  | cons c rest ih =>
    obtain ⟨rest', rfl, hrest⟩ := exists_utf8EncodeChar h
    rw [← ih hrest]
    rfl

theorem mapM_id_eq_some_iff : os.mapM id = some t ↔ os = t.map some := by
  induction os generalizing t with
  | nil => cases t <;> simp
  | cons o rest ih =>
    cases o with
    | none => cases t <;> simp
    | some c =>
      cases t with
      | nil => simp [Option.bind_eq_some_iff]
      | cons c' t' => simp [Option.bind_eq_some_iff, ih, and_comm]

/-- Bytes that are read strictly have a text just if they are its form. -/
theorem decode?_eq_some_iff : decode? bs = some t ↔ t.bytes = bs := by
  rw [decode?, mapM_id_eq_some_iff]
  constructor
  · exact bytes_eq_of_parts
  · rintro rfl
    exact parts_bytes t

end CommitGate.Utf8

namespace CommitGate.Files

theorem text_eq_ok_iff {files : Files} {path t : Text} :
    files.text path = .ok t ↔ files.bytes path = .ok t.bytes := by
  unfold Files.text
  cases hbytes : files.bytes path with
  | error e => simp [bind, Except.bind]
  | ok bytes =>
    have ht : Utf8.decode? bytes = some t ↔ bytes = t.bytes :=
      Utf8.decode?_eq_some_iff.trans eq_comm
    simp only [bind, Except.bind, Except.ok.injEq, ← ht]
    cases Utf8.decode? bytes <;> simp

end CommitGate.Files
