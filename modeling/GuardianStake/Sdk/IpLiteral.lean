import GuardianStake.Sdk.Js

/-!
# IP addresses and their text

Addresses as bit vectors, blocks of addresses, and the text a URL parser writes an address as:
dotted decimal for IPv4, and for IPv6 lower-case hextets with the first longest run of at least two
zero hextets compressed to `::`.

* `parseDigits_toDigits` — numerals without leading zeros read back.
* `ipv6Text_of_leadingRun`, `ipv6Text_of_not_leadingRun` — **the shapes a text can have**:
  compressed at the front, or with the first hextet written out before a colon.
-/

namespace GuardianStake.Sdk

/-! ## Addresses -/

/-- A block of addresses: those that share their first `len` bits with `base`. -/
structure Cidr (w : ℕ) where
  base : BitVec w
  len : ℕ
  deriving DecidableEq, Repr

/-- The address lies in the block. -/
def Cidr.Contains {w : ℕ} (block : Cidr w) (addr : BitVec w) : Prop :=
  addr.toNat / 2 ^ (w - block.len) = block.base.toNat / 2 ^ (w - block.len)

/-- The IPv4 address of four octets. -/
def ipv4 (a b c d : ℕ) : BitVec 32 := BitVec.ofNat 32 (a * 2 ^ 24 + b * 2 ^ 16 + c * 2 ^ 8 + d)

/-- The octets of an IPv4 address. -/
def octets (addr : BitVec 32) : List ℕ :=
  [addr.toNat / 2 ^ 24, addr.toNat / 2 ^ 16 % 2 ^ 8, addr.toNat / 2 ^ 8 % 2 ^ 8, addr.toNat % 2 ^ 8]

/-- The hextets of an IPv6 address. -/
def hextets (addr : BitVec 128) : List ℕ :=
  [addr.toNat / 2 ^ 112, addr.toNat / 2 ^ 96 % 2 ^ 16, addr.toNat / 2 ^ 80 % 2 ^ 16,
    addr.toNat / 2 ^ 64 % 2 ^ 16, addr.toNat / 2 ^ 48 % 2 ^ 16, addr.toNat / 2 ^ 32 % 2 ^ 16,
    addr.toNat / 2 ^ 16 % 2 ^ 16, addr.toNat % 2 ^ 16]

/-- An octet has eight bits. -/
theorem lt_of_mem_octets {addr : BitVec 32} : ∀ n ∈ octets addr, n < 256 := by
  have hlt := addr.isLt
  simp only [octets, List.mem_cons, List.not_mem_nil, or_false]
  rintro n (rfl | rfl | rfl | rfl) <;> omega

/-- A hextet has sixteen. -/
theorem lt_of_mem_hextets {addr : BitVec 128} : ∀ n ∈ hextets addr, n < 65536 := by
  have hlt := addr.isLt
  simp only [hextets, List.mem_cons, List.not_mem_nil, or_false]
  rintro n (rfl | rfl | rfl | rfl | rfl | rfl | rfl | rfl) <;> omega

/-! ## Text -/

/-- Octets in dotted decimal. -/
def dottedText (octets : List ℕ) : List Char := ['.'].intercalate (octets.map (Nat.toDigits 10))

/-- Hextets without leading zeros, between colons. -/
def hexText (hextets : List ℕ) : List Char := [':'].intercalate (hextets.map (Nat.toDigits 16))

/-- The length of the run of zeros a list starts with. -/
def zeroRun (l : List ℕ) : ℕ := (l.takeWhile (· = 0)).length

/-- The length of the longest run of zeros in a list. -/
def longestZeroRun : List ℕ → ℕ
  | [] => 0
  | x :: l => max (zeroRun (x :: l)) (longestZeroRun l)

/-- The first place where a run of zeros of a given length starts. -/
def runStart (length : ℕ) : List ℕ → ℕ
  | [] => 0
  | x :: l => if zeroRun (x :: l) = length then 0 else runStart length l + 1

/-- The text of an IPv6 address: the first longest run of at least two zeros is compressed. -/
def ipv6Text (hextets : List ℕ) : List Char :=
  let length := longestZeroRun hextets
  if length < 2 then hexText hextets
  else
    let start := runStart length hextets
    hexText (hextets.take start) ++ [':', ':'] ++ hexText (hextets.drop (start + length))

/-- The host of an IPv4 URL. -/
def ipv4Host (addr : BitVec 32) : String := String.ofList (dottedText (octets addr))

/-- The host of an IPv6 URL, in brackets. -/
def ipv6Host (addr : BitVec 128) : String :=
  String.ofList ('[' :: ipv6Text (hextets addr) ++ [']'])

example : ipv4Host (ipv4 192 168 0 1) = "192.168.0.1" := by decide +kernel

example : ipv6Host 0x20010db8000000000001000000000001#128 = "[2001:db8::1:0:0:1]" ∧
    ipv6Host 0xffff7f000001#128 = "[::ffff:7f00:1]" ∧ ipv6Host 0#128 = "[::]" := by decide +kernel

/-! ## Numerals read back -/

section numerals

variable {base : ℕ}

/-- **Induction on the digits of a number**, from the first to the last. -/
theorem toDigits_induction {P : ℕ → List Char → Prop} (hbase : 1 < base)
    (single : ∀ d < base, P d [d.digitChar])
    (snoc : ∀ n, base ≤ n → P (n / base) (Nat.toDigits base (n / base)) →
      P n (Nat.toDigits base (n / base) ++ [(n % base).digitChar])) (n : ℕ) :
    P n (Nat.toDigits base n) := by
  induction n using Nat.strong_induction_on with
  | _ n ih =>
      rw [Nat.toDigits_eq_if hbase]
      split
      · next hlt => exact single n hlt
      · next hge =>
          have hge : base ≤ n := not_lt.mp hge
          exact snoc n hge (ih _ (Nat.div_lt_self (by omega) hbase))

/-- The digits of a numeral are digits of its base. -/
theorem mem_toDigits (hbase : 1 < base) {n : ℕ} {c : Char} (hc : c ∈ Nat.toDigits base n) :
    ∃ d < base, c = d.digitChar := by
  refine toDigits_induction (P := fun _ l => c ∈ l → ∃ d < base, c = d.digitChar) hbase ?_ ?_ n hc
  · intro d hd hc
    exact ⟨d, hd, List.mem_singleton.mp hc⟩
  · intro n _ ih hc
    rcases List.mem_append.mp hc with hc | hc
    · exact ih hc
    · exact ⟨_, Nat.mod_lt _ (by omega), List.mem_singleton.mp hc⟩

/-- **Numerals read back**, in a base whose digits do. -/
theorem parseDigits_toDigits (hbase : 1 < base)
    (hdigit : ∀ d < base, digitValue base d.digitChar = some d) (n : ℕ) :
    parseDigits base (Nat.toDigits base n) = some n := by
  refine toDigits_induction (P := fun n l => parseDigits base l = some n) hbase ?_ ?_ n
  · intro d hd
    simp [parseDigits, hdigit d hd]
  · intro n hge ih
    have hmod := hdigit (n % base) (Nat.mod_lt _ (by omega))
    have hsnoc : ∀ {l : List Char} (c : Char), l ≠ [] → parseDigits base (l ++ [c]) = (do
        let n ← parseDigits base l
        let v ← digitValue base c
        some (base * n + v)) := by
      intro l c hl
      cases l with
      | nil => exact absurd rfl hl
      | cons d ds => rw [List.cons_append, parseDigits, parseDigits, ← List.cons_append,
          List.foldl_append]; rfl
    rw [hsnoc _ Nat.toDigits_ne_nil, ih, hmod]
    exact congrArg some (Nat.div_add_mod n base)

/-- The sixteen digits read as themselves, are lower case, and are none of the characters that
structure a host. -/
theorem digitChar_hex : ∀ d < 16, digitValue 16 d.digitChar = some d ∧
    d.digitChar.toLower = d.digitChar ∧
    d.digitChar ≠ ':' ∧ d.digitChar ≠ '.' ∧ d.digitChar ≠ '[' ∧ d.digitChar ≠ 'l' := by decide

/-- The ten decimal digits read as themselves. -/
theorem digitChar_decimal : ∀ d < 10, digitValue 10 d.digitChar = some d := by decide

/-- A hextet is read as it was written. -/
theorem parseDigits_hex (n : ℕ) : parseDigits 16 (Nat.toDigits 16 n) = some n :=
  parseDigits_toDigits (by decide) (fun d hd => (digitChar_hex d hd).1) n

/-- So is an octet. -/
theorem parseDigits_decimal (n : ℕ) : parseDigits 10 (Nat.toDigits 10 n) = some n :=
  parseDigits_toDigits (by decide) digitChar_decimal n

/-- Hexadecimal numerals are injective. -/
theorem toDigits_hex_inj {m n : ℕ} : Nat.toDigits 16 m = Nat.toDigits 16 n ↔ m = n := by
  refine ⟨fun h => ?_, congrArg _⟩
  have hparse := parseDigits_hex m
  rw [h, parseDigits_hex] at hparse
  exact (Option.some.inj hparse).symm

end numerals

/-! ## Shapes of a text -/

section shapes

/-- What stands in a joined text: the separator or a character of a part. -/
theorem mem_intercalate {α : Type} {sep c : α} {ls : List (List α)}
    (h : c ∈ [sep].intercalate ls) : c = sep ∨ ∃ l ∈ ls, c ∈ l := by
  induction ls with
  | nil => cases h
  | cons l ls ih =>
      cases ls with
      | nil => exact Or.inr ⟨l, List.mem_cons_self, by simpa using h⟩
      | cons l' ls =>
          rw [List.intercalate_cons_cons, List.append_assoc] at h
          rcases List.mem_append.mp h with h | h
          · exact Or.inr ⟨l, List.mem_cons_self, h⟩
          · rcases List.mem_append.mp h with h | h
            · exact Or.inl (List.mem_singleton.mp h)
            · refine (ih h).imp_right ?_
              rintro ⟨part, hpart, hc⟩
              exact ⟨part, List.mem_cons_of_mem _ hpart, hc⟩

/-- The characters of an address in text: hexadecimal digits and one separator. -/
def AddressChar (sep c : Char) : Prop := c = sep ∨ ∃ d < 16, c = d.digitChar

/-- Hextets with colons are written in digits and colons. -/
theorem mem_hexText {l : List ℕ} {c : Char} (h : c ∈ hexText l) : AddressChar ':' c := by
  refine (mem_intercalate h).imp_right ?_
  rintro ⟨part, hpart, hc⟩
  obtain ⟨n, -, rfl⟩ := List.mem_map.mp hpart
  exact mem_toDigits (by decide) hc

/-- Octets with points are written in digits and points. -/
theorem mem_dottedText {l : List ℕ} {c : Char} (h : c ∈ dottedText l) : AddressChar '.' c := by
  refine (mem_intercalate h).imp_right ?_
  rintro ⟨part, hpart, hc⟩
  obtain ⟨n, -, rfl⟩ := List.mem_map.mp hpart
  obtain ⟨d, hd, rfl⟩ := mem_toDigits (by decide) hc
  exact ⟨d, hd.trans (by decide), rfl⟩

/-- So are the canonical texts, in digits and colons. -/
theorem mem_ipv6Text {l : List ℕ} {c : Char} (h : c ∈ ipv6Text l) : AddressChar ':' c := by
  simp only [ipv6Text] at h
  split at h
  · exact mem_hexText h
  · simp only [List.append_assoc, List.mem_append] at h
    rcases h with h | h | h
    · exact mem_hexText h
    · exact Or.inl (by simpa using h)
    · exact mem_hexText h

/-- A separator that is no digit is in no hextet. -/
theorem notMem_toDigits_hex {sep : Char} (hsep : ∀ d < 16, d.digitChar ≠ sep) (n : ℕ) :
    sep ∉ Nat.toDigits 16 n := by
  intro h
  obtain ⟨d, hd, hc⟩ := mem_toDigits (by decide) h
  exact hsep d hd hc.symm

/-- Hextets read back from their text. -/
theorem splitOn_hexText {l : List ℕ} (hl : l ≠ []) :
    (hexText l).splitOn ':' = l.map (Nat.toDigits 16) := by
  refine List.splitOn_intercalate ':' ?_ (by simpa using hl)
  intro part hpart
  obtain ⟨n, -, rfl⟩ := List.mem_map.mp hpart
  exact notMem_toDigits_hex (fun d hd => (digitChar_hex d hd).2.2.1) n

/-- Octets read back from their text. -/
theorem splitOn_dottedText {l : List ℕ} (hl : l ≠ []) :
    (dottedText l).splitOn '.' = l.map (Nat.toDigits 10) := by
  refine List.splitOn_intercalate '.' ?_ (by simpa using hl)
  intro part hpart hdot
  obtain ⟨n, -, rfl⟩ := List.mem_map.mp hpart
  obtain ⟨d, hd, hc⟩ := mem_toDigits (by decide) hdot
  exact (digitChar_hex d (hd.trans (by decide))).2.2.2.1 hc.symm

/-- A hextet before others is followed by a colon. -/
theorem hexText_cons_of_ne_nil (x : ℕ) {l : List ℕ} (hl : l ≠ []) :
    hexText (x :: l) = Nat.toDigits 16 x ++ ':' :: hexText l := by
  rw [hexText, List.map_cons, List.intercalate_cons_of_ne_nil (by simpa using hl),
    List.append_assoc]
  rfl

/-- The text starts with the first hextet written out before a colon. -/
def StartsWithHextet (x : ℕ) (text : List Char) : Prop :=
  ∃ rest, text = Nat.toDigits 16 x ++ ':' :: rest

/-- A longest run at the front is compressed there. -/
theorem ipv6Text_of_leadingRun {l : List ℕ} (htwo : 2 ≤ zeroRun l)
    (hlongest : zeroRun l = longestZeroRun l) :
    ipv6Text l = ':' :: ':' :: hexText (l.drop (zeroRun l)) := by
  have hstart : runStart (longestZeroRun l) l = 0 := by
    cases l with
    | nil => rfl
    | cons x l => rw [runStart, if_pos hlongest]
  simp only [ipv6Text]
  rw [if_neg (by omega), hstart, ← hlongest]
  simp [hexText]

/-- Otherwise the first hextet is written out. -/
theorem ipv6Text_of_not_leadingRun {x y : ℕ} {l : List ℕ}
    (h : ¬(2 ≤ zeroRun (x :: y :: l) ∧ zeroRun (x :: y :: l) = longestZeroRun (x :: y :: l))) :
    StartsWithHextet x (ipv6Text (x :: y :: l)) := by
  by_cases hshort : longestZeroRun (x :: y :: l) < 2
  · refine ⟨hexText (y :: l), ?_⟩
    simp only [ipv6Text]
    rw [if_pos hshort, hexText_cons_of_ne_nil x (List.cons_ne_nil y l)]
  · -- the run that is compressed starts later
    have hne : zeroRun (x :: y :: l) ≠ longestZeroRun (x :: y :: l) := fun heq => h ⟨by omega, heq⟩
    simp only [ipv6Text]
    rw [if_neg hshort]
    generalize longestZeroRun (x :: y :: l) = k at hne
    have hstart : runStart k (x :: y :: l) = runStart k (y :: l) + 1 := by
      rw [runStart, if_neg hne]
    rw [hstart, List.take_succ_cons]
    generalize (y :: l).take (runStart k (y :: l)) = front
    generalize (x :: y :: l).drop (runStart k (y :: l) + 1 + k) = back
    cases front with
    | nil => exact ⟨':' :: hexText back, by simp [hexText]⟩
    | cons z front =>
        refine ⟨hexText (z :: front) ++ [':', ':'] ++ hexText back, ?_⟩
        rw [hexText_cons_of_ne_nil x (List.cons_ne_nil z front)]
        simp

/-- A hextet that is not zero starts no run of zeros. -/
theorem zeroRun_cons_of_ne {x : ℕ} (hx : x ≠ 0) (l : List ℕ) : zeroRun (x :: l) = 0 := by
  simp [zeroRun, hx]

/-- A list is its leading run of zeros and what comes after. -/
theorem eq_replicate_append (l : List ℕ) :
    l = List.replicate (zeroRun l) 0 ++ l.drop (zeroRun l) := by
  have htake : l.takeWhile (· = 0) = List.replicate (zeroRun l) 0 :=
    List.eq_replicate_iff.mpr ⟨rfl, fun n hn => by simpa using List.mem_takeWhile_imp hn⟩
  have hdrop : (l.takeWhile (· = 0) ++ l.dropWhile (· = 0)).drop (zeroRun l) =
      l.dropWhile (· = 0) := List.drop_left' rfl
  rw [List.takeWhile_append_dropWhile] at hdrop
  rw [← htake, hdrop, List.takeWhile_append_dropWhile]

end shapes

end GuardianStake.Sdk
