import GuardianStake.Sdk.IpLiteral

/-!
# The private-host guard

`entity/config-validation.ts`: `isPrivateOrLocalHost` reads a host name as text. A regular
expression over the parts between colons or dots is modelled on the parts.

* `PrivateIpv4`, `PrivateIpv6` — the addresses it is meant to reject.
* `isPrivateOrLocalHost_ipv4`, `isPrivateOrLocalHost_ipv6` — it rejects them and no other.
* `isPrivateOrLocalHost_exact` — **the guard is exact on IP literals**.
-/

namespace GuardianStake.Sdk

/-! ## The code -/

/-- `/^[0-9a-f]{1,4}$/i` on a part. -/
def isHextetText (part : List Char) : Bool :=
  1 ≤ part.length && part.length ≤ 4 && part.all fun c => (digitValue 16 c).isSome

/-- `/^\d{1,3}$/` and `n <= 255` on a part: its value. -/
def parseOctet (part : List Char) : Option ℕ :=
  if 1 ≤ part.length ∧ part.length ≤ 3 ∧ part.all (fun c => (digitValue 10 c).isSome) then
    (parseDigits 10 part).filter (· ≤ 255)
  else none

/-- Source: `entity/config-validation.ts`, `parseIpv4`. -/
def parseIpv4 (value : List Char) : Option (List ℕ) :=
  let parts := value.splitOn '.'
  if parts.length ≠ 4 then none else parts.mapM parseOctet

/-- The ranges of `isIpv6UniqueLocalOrLinkLocal`. -/
def isLocalHextet (first : ℕ) : Bool :=
  (0xfc00 ≤ first && first ≤ 0xfdff) || (0xfe80 ≤ first && first ≤ 0xfebf)

/-- Source: `entity/config-validation.ts`, `isIpv6UniqueLocalOrLinkLocal`. -/
def isIpv6UniqueLocalOrLinkLocal (host : List Char) : Bool :=
  if ':' ∉ host then false
  else
    match host.splitOn ':' with
    | firstHextet :: _ :: _ =>
        if isHextetText firstHextet then
          match parseDigits 16 firstHextet with
          | none => false
          | some first => isLocalHextet first
        else false
    | _ => false

/-- The text after `/^::ffff:/i`. -/
def afterMappedPrefix (host : List Char) : Option (List Char) :=
  if (host.take 7).map Char.toLower = "::ffff:".toList then some (host.drop 7) else none

/-- `/^\d+\.\d+\.\d+\.\d+$/`. -/
def isDottedDigits (text : List Char) : Bool :=
  let parts := text.splitOn '.'
  parts.length = 4 &&
    parts.all fun part => part.length ≠ 0 && part.all fun c => (digitValue 10 c).isSome

/-- Source: `entity/config-validation.ts`, `parseIpv4MappedIpv6`. -/
def parseIpv4MappedIpv6 (host : List Char) : Option (List Char) :=
  match afterMappedPrefix host with
  | none => none
  | some rest =>
      if isDottedDigits rest then some rest
      else
        match rest.splitOn ':' with
        | [hiText, loText] =>
            if isHextetText hiText && isHextetText loText then
              match parseDigits 16 hiText, parseDigits 16 loText with
              | some hi, some lo =>
                  if 0xffff < hi ∨ 0xffff < lo then none
                  else
                    some (dottedText
                      [(hi >>> 8) &&& 0xff, hi &&& 0xff, (lo >>> 8) &&& 0xff, lo &&& 0xff])
              | _, _ => none
            else none
        | _ => none

/-- The checks of `isPrivateOrLocalHost` on the first two octets. -/
def isPrivateOctets (a b : ℕ) : Bool :=
  a = 127 || a = 10 || (a = 172 && 16 ≤ b && b ≤ 31) || (a = 192 && b = 168) ||
    (a = 169 && b = 254) || a = 0

/-- The part of `isPrivateOrLocalHost` from `bracketless` on. -/
def isPrivateLiteral (bracketless : List Char) : Bool :=
  if bracketless = "::1".toList then true
  else if isIpv6UniqueLocalOrLinkLocal bracketless then true
  else
    match parseIpv4 ((parseIpv4MappedIpv6 bracketless).getD bracketless) with
    | some (a :: b :: _) => isPrivateOctets a b
    | _ => false

/-- Source: `entity/config-validation.ts`, `isPrivateOrLocalHost`. -/
def isPrivateOrLocalHost (hostname : String) : Bool :=
  let host := hostname.toList.map Char.toLower
  if host = "localhost".toList || ".localhost".toList.isSuffixOf host ||
      ".local".toList.isSuffixOf host then true
  else
    let bracketless :=
      if ['['].isPrefixOf host && [']'].isSuffixOf host then (host.drop 1).dropLast else host
    isPrivateLiteral bracketless

example : isPrivateOrLocalHost "[::FFFF:a9fe:a9fe]" = true ∧
    isPrivateOrLocalHost "[::ffff:127.0.0.1]" = true ∧ isPrivateOrLocalHost "172.32.0.1" = false ∧
    isPrivateOrLocalHost "foo.local" = true := by decide +kernel

/-! ## The addresses meant -/

/-- The private, loopback, link-local and unspecified IPv4 blocks. -/
def privateIpv4Blocks : List (Cidr 32) :=
  [⟨ipv4 127 0 0 0, 8⟩, ⟨ipv4 10 0 0 0, 8⟩, ⟨ipv4 172 16 0 0, 12⟩, ⟨ipv4 192 168 0 0, 16⟩,
    ⟨ipv4 169 254 0 0, 16⟩, ⟨ipv4 0 0 0 0, 8⟩]

/-- An IPv4 address of one of these blocks. -/
def PrivateIpv4 (addr : BitVec 32) : Prop := ∃ block ∈ privateIpv4Blocks, block.Contains addr

/-- Unique-local addresses, `fc00::/7`. -/
def uniqueLocal : Cidr 128 := ⟨BitVec.ofNat 128 (0xfc00 * 2 ^ 112), 7⟩

/-- Link-local addresses, `fe80::/10`. -/
def linkLocal : Cidr 128 := ⟨BitVec.ofNat 128 (0xfe80 * 2 ^ 112), 10⟩

/-- The IPv6 address `::ffff:a.b.c.d` of an IPv4 address. -/
def mappedIpv6 (addr : BitVec 32) : BitVec 128 := BitVec.ofNat 128 (0xffff * 2 ^ 32 + addr.toNat)

/-- Loopback, a unique-local or link-local address, or the mapped form of a private IPv4 address. -/
def PrivateIpv6 (addr : BitVec 128) : Prop :=
  addr = 1 ∨ uniqueLocal.Contains addr ∨ linkLocal.Contains addr ∨
    ∃ v4, addr = mappedIpv6 v4 ∧ PrivateIpv4 v4

/-- A private IPv4 address by its octets. -/
theorem privateIpv4_iff (addr : BitVec 32) :
    PrivateIpv4 addr ↔
      isPrivateOctets (addr.toNat / 2 ^ 24) (addr.toNat / 2 ^ 16 % 2 ^ 8) = true := by
  have hlt := addr.isLt
  simp only [PrivateIpv4, privateIpv4Blocks, Cidr.Contains, ipv4, List.exists_mem_cons_iff,
    List.not_mem_nil, false_and, exists_false, or_false, BitVec.toNat_ofNat, isPrivateOctets,
    Bool.or_eq_true, Bool.and_eq_true, decide_eq_true_eq]
  omega

/-! ## Names and brackets -/

section hosts

/-- A text without an `l` is no local name. -/
theorem isPrivateOrLocalHost_of_notMem {hostname : String} {host : List Char}
    (hlower : hostname.toList.map Char.toLower = host) (hl : 'l' ∉ host) :
    isPrivateOrLocalHost hostname =
      isPrivateLiteral
        (if ['['].isPrefixOf host && [']'].isSuffixOf host then (host.drop 1).dropLast else host) := by
  have hname : ¬(host = "localhost".toList || ".localhost".toList.isSuffixOf host ||
      ".local".toList.isSuffixOf host) = true := by
    simp only [Bool.or_eq_true, decide_eq_true_eq, List.isSuffixOf_iff_suffix]
    rintro ((rfl | h) | h)
    · exact hl (by decide)
    · exact hl (h.mem (by decide))
    · exact hl (h.mem (by decide))
  simp only [isPrivateOrLocalHost]
  rw [hlower, if_neg hname]

/-- The characters of an address are lower case, and none of them is an `l`. -/
theorem AddressChar.toLower {sep c : Char} (hc : AddressChar sep c) (hsep : sep.toLower = sep) :
    c.toLower = c := by
  rcases hc with rfl | ⟨d, hd, rfl⟩
  · exact hsep
  · exact (digitChar_hex d hd).2.1

theorem AddressChar.ne {sep c : Char} (hc : AddressChar sep c) {c' : Char} (hsep : sep ≠ c')
    (hdigit : ∀ d < 16, d.digitChar ≠ c') : c ≠ c' := by
  rcases hc with rfl | ⟨d, hd, rfl⟩
  · exact hsep
  · exact hdigit d hd

/-- A dotted address is checked as it stands. -/
theorem isPrivateOrLocalHost_dotted (l : List ℕ) :
    isPrivateOrLocalHost (String.ofList (dottedText l)) = isPrivateLiteral (dottedText l) := by
  have hlower : (String.ofList (dottedText l)).toList.map Char.toLower = dottedText l := by
    rw [String.toList_ofList, List.map_congr_left fun c hc =>
      (mem_dottedText hc).toLower (by decide), List.map_id']
  have hl : 'l' ∉ dottedText l := fun h =>
    (mem_dottedText h).ne (by decide) (fun d hd => (digitChar_hex d hd).2.2.2.2.2) rfl
  have hbracket : '[' ∉ dottedText l := fun h =>
    (mem_dottedText h).ne (by decide) (fun d hd => (digitChar_hex d hd).2.2.2.2.1) rfl
  rw [isPrivateOrLocalHost_of_notMem hlower hl, if_neg]
  intro h
  have hstarts := List.isPrefixOf_iff_prefix.mp (Bool.and_eq_true_iff.mp h).1
  exact hbracket (hstarts.mem List.mem_cons_self)

/-- A bracketed address is checked without its brackets. -/
theorem isPrivateOrLocalHost_bracketed (l : List ℕ) :
    isPrivateOrLocalHost (String.ofList ('[' :: ipv6Text l ++ [']'])) =
      isPrivateLiteral (ipv6Text l) := by
  have htext : (ipv6Text l).map Char.toLower = ipv6Text l := by
    rw [List.map_congr_left fun c hc => (mem_ipv6Text hc).toLower (by decide), List.map_id']
  have hlower : (String.ofList ('[' :: ipv6Text l ++ [']'])).toList.map Char.toLower =
      '[' :: ipv6Text l ++ [']'] := by
    rw [String.toList_ofList, List.map_append, List.map_cons, htext]
    rfl
  have hl : 'l' ∉ '[' :: ipv6Text l ++ [']'] := by
    simp only [List.mem_append, List.mem_cons, List.not_mem_nil, or_false]
    rintro ((h | h) | h)
    · cases h
    · exact (mem_ipv6Text h).ne (by decide) (fun d hd => (digitChar_hex d hd).2.2.2.2.2) rfl
    · cases h
  rw [isPrivateOrLocalHost_of_notMem hlower hl, if_pos]
  · simp
  · simp [List.isSuffixOf_iff_suffix]

end hosts

/-! ## Dotted addresses -/

section dotted

theorem isHextetText_toDigits {n : ℕ} (hn : n < 65536) :
    isHextetText (Nat.toDigits 16 n) = true := by
  have hlen : (Nat.toDigits 16 n).length ≤ 4 :=
    (Nat.length_toDigits_le_iff (by decide) (by decide)).mpr hn
  have hpos : 1 ≤ (Nat.toDigits 16 n).length := Nat.length_toDigits_pos
  have hall : ∀ c ∈ Nat.toDigits 16 n, (digitValue 16 c).isSome := by
    intro c hc
    obtain ⟨d, hd, rfl⟩ := mem_toDigits (by decide) hc
    rw [(digitChar_hex d hd).1]
    rfl
  simpa [isHextetText, hlen, hpos] using hall

theorem parseOctet_toDigits {n : ℕ} (hn : n < 256) : parseOctet (Nat.toDigits 10 n) = some n := by
  have hlen : (Nat.toDigits 10 n).length ≤ 3 :=
    (Nat.length_toDigits_le_iff (by decide) (by decide)).mpr (hn.trans (by decide))
  have hpos : 1 ≤ (Nat.toDigits 10 n).length := Nat.length_toDigits_pos
  have hall : (Nat.toDigits 10 n).all (fun c => (digitValue 10 c).isSome) = true := by
    rw [List.all_eq_true]
    intro c hc
    obtain ⟨d, hd, rfl⟩ := mem_toDigits (by decide) hc
    rw [digitChar_decimal d hd]
    rfl
  rw [parseOctet, if_pos ⟨hpos, hlen, hall⟩, parseDigits_decimal, Option.filter_some,
    if_pos (decide_eq_true (by omega))]

/-- Four octets read back from their text. -/
theorem parseIpv4_dottedText {l : List ℕ} (hlength : l.length = 4) (h : ∀ n ∈ l, n < 256) :
    parseIpv4 (dottedText l) = some l := by
  have hparts : (l.map (Nat.toDigits 10)).mapM parseOctet = some l := by
    clear hlength
    induction l with
    | nil => rfl
    | cons n l ih =>
        obtain ⟨hn, hl⟩ := List.forall_mem_cons.mp h
        rw [List.map_cons, List.mapM_cons, parseOctet_toDigits hn, ih hl]
        rfl
  have hne : l ≠ [] := fun hnil => absurd hlength (by simp [hnil])
  rw [parseIpv4, splitOn_dottedText hne]
  simpa [hlength] using hparts

/-- What has no dot is no dotted address. -/
theorem parseIpv4_of_notMem {value : List Char} (h : '.' ∉ value) : parseIpv4 value = none := by
  rw [parseIpv4, List.splitOn_eq_singleton h]
  rfl

/-- What has no colon is neither of the IPv6 forms. -/
theorem isIpv6UniqueLocalOrLinkLocal_of_notMem {host : List Char} (h : ':' ∉ host) :
    isIpv6UniqueLocalOrLinkLocal host = false := if_pos h

theorem parseIpv4MappedIpv6_of_notMem {host : List Char} (h : ':' ∉ host.map Char.toLower) :
    parseIpv4MappedIpv6 host = none := by
  have hafter : afterMappedPrefix host = none := by
    refine if_neg fun hprefix => h ?_
    have hmem : ':' ∈ (host.take 7).map Char.toLower := hprefix ▸ by decide
    obtain ⟨c, hc, hlower⟩ := List.mem_map.mp hmem
    exact List.mem_map.mpr ⟨c, List.mem_of_mem_take hc, hlower⟩
  rw [parseIpv4MappedIpv6, hafter]

/-- **Dotted addresses** are judged by their first two octets. -/
theorem isPrivateLiteral_dottedText {a b c d : ℕ} (h : ∀ n ∈ [a, b, c, d], n < 256) :
    isPrivateLiteral (dottedText [a, b, c, d]) = isPrivateOctets a b := by
  have hcolon : ':' ∉ dottedText [a, b, c, d] := fun hmem =>
    (mem_dottedText hmem).ne (by decide) (fun d hd => (digitChar_hex d hd).2.2.1) rfl
  have hlower : ':' ∉ (dottedText [a, b, c, d]).map Char.toLower := by
    rwa [List.map_congr_left fun c hc => (mem_dottedText hc).toLower (by decide), List.map_id']
  have hloopback : dottedText [a, b, c, d] ≠ "::1".toList := fun heq => hcolon (heq ▸ by decide)
  rw [isPrivateLiteral, if_neg hloopback, isIpv6UniqueLocalOrLinkLocal_of_notMem hcolon,
    parseIpv4MappedIpv6_of_notMem hlower, Option.getD_none, parseIpv4_dottedText rfl h]
  rfl

/-- The guard on IPv4 addresses. -/
theorem isPrivateOrLocalHost_ipv4 (addr : BitVec 32) :
    isPrivateOrLocalHost (ipv4Host addr) = true ↔ PrivateIpv4 addr := by
  rw [ipv4Host, isPrivateOrLocalHost_dotted, privateIpv4_iff]
  exact (isPrivateLiteral_dottedText lt_of_mem_octets).congr_left

end dotted

/-! ## IPv6 addresses -/

section ipv6

/-- Text with its first hextet written out does not start with a colon. -/
theorem StartsWithHextet.not_colon {x : ℕ} {text : List Char} (h : StartsWithHextet x text) :
    ∃ c cs, text = c :: cs ∧ c.toLower ≠ ':' := by
  obtain ⟨rest, rfl⟩ := h
  cases hdigits : Nat.toDigits 16 x with
  | nil => exact absurd hdigits Nat.toDigits_ne_nil
  | cons c cs =>
      obtain ⟨d, hd, hc⟩ := mem_toDigits (by decide) (hdigits ▸ List.mem_cons_self)
      obtain ⟨-, hlower, hcolon, -⟩ := digitChar_hex d hd
      exact ⟨c, cs ++ ':' :: rest, rfl, by rwa [hc, hlower]⟩

/-- **First hextet written out**: the text is judged by it alone. -/
theorem isPrivateLiteral_of_startsWithHextet {x : ℕ} (hx : x < 65536) {text : List Char}
    (hstart : StartsWithHextet x text) (hdot : '.' ∉ text) :
    isPrivateLiteral text = isLocalHextet x := by
  obtain ⟨c, cs, htext, hc⟩ := hstart.not_colon
  have hloopback : text ≠ "::1".toList := by
    rintro rfl
    obtain ⟨rfl, -⟩ := List.cons.inj htext
    exact hc rfl
  have hmapped : parseIpv4MappedIpv6 text = none := by
    have hafter : afterMappedPrefix text = none := by
      refine if_neg fun hprefix => hc ?_
      rw [htext] at hprefix
      exact (List.cons.inj hprefix).1
    rw [parseIpv4MappedIpv6, hafter]
  have hlocal : isIpv6UniqueLocalOrLinkLocal text = isLocalHextet x := by
    obtain ⟨rest, rfl⟩ := hstart
    have hnotMem := notMem_toDigits_hex (fun d hd => (digitChar_hex d hd).2.2.1) x
    rw [isIpv6UniqueLocalOrLinkLocal, if_neg (by simp),
      List.splitOn_append_cons_self_of_not_mem hnotMem]
    cases hparts : rest.splitOn ':' with
    | nil => exact absurd hparts (List.splitOn_ne_nil _ _)
    | cons part parts => simp [isHextetText_toDigits hx, parseDigits_hex]
  rw [isPrivateLiteral, if_neg hloopback, hlocal, hmapped, Option.getD_none,
    parseIpv4_of_notMem hdot]
  cases isLocalHextet x <;> rfl

theorem hexText_eq_one {r : List ℕ} : hexText r = ['1'] ↔ r = [1] := by
  constructor
  · intro h
    have hne : r ≠ [] := by
      rintro rfl
      cases h
    have hparts := splitOn_hexText hne
    rw [h] at hparts
    have hsplit : ['1'].splitOn ':' = [['1']] := by decide
    obtain ⟨x, rfl, hx⟩ := List.map_eq_singleton_iff.mp (hparts.symm.trans hsplit)
    have hone : Nat.toDigits 16 x = Nat.toDigits 16 1 := hx
    rw [toDigits_hex_inj.mp hone]
  · rintro rfl
    decide

/-- What follows `::ffff:` in a text compressed at the front. -/
theorem afterMappedPrefix_compressed (r : List ℕ) :
    afterMappedPrefix (':' :: ':' :: hexText r) =
      if (hexText r).take 5 = "ffff:".toList then some ((hexText r).drop 5) else none := by
  have hlower : ((hexText r).take 5).map Char.toLower = (hexText r).take 5 := by
    rw [List.map_congr_left fun c hc => (mem_hexText (List.mem_of_mem_take hc)).toLower (by decide),
      List.map_id']
  have hcolon : Char.toLower ':' = ':' := by decide
  simp only [afterMappedPrefix, List.take_succ_cons, List.map_cons, hlower, hcolon,
    List.drop_succ_cons]
  have hiff : (':' :: ':' :: (hexText r).take 5 = "::ffff:".toList) ↔
      (hexText r).take 5 = "ffff:".toList := by
    constructor
    · intro h
      exact (List.cons.inj (List.cons.inj h).2).2
    · intro h
      rw [h]
      decide
  simp only [hiff]

/-- It follows exactly the hextet `ffff`, if more comes. -/
theorem take_hexText_eq {x y : ℕ} {r : List ℕ} :
    (hexText (x :: y :: r)).take 5 = "ffff:".toList ↔ x = 0xffff := by
  rw [hexText_cons_of_ne_nil x (List.cons_ne_nil y r)]
  constructor
  · intro h
    obtain ⟨rest, hrest⟩ := List.take_prefix 5 (Nat.toDigits 16 x ++ ':' :: hexText (y :: r))
    rw [h] at hrest
    have hsplit : ['f', 'f', 'f', 'f'] ++ ':' :: rest =
        Nat.toDigits 16 x ++ ':' :: hexText (y :: r) := hrest
    have hnotMem := notMem_toDigits_hex (fun d hd => (digitChar_hex d hd).2.2.1) x
    have hffff : ':' ∉ ['f', 'f', 'f', 'f'] := by decide
    have hparts := congrArg (List.splitOn ':') hsplit
    rw [List.splitOn_append_cons_self_of_not_mem hffff,
      List.splitOn_append_cons_self_of_not_mem hnotMem] at hparts
    have hdigits : Nat.toDigits 16 x = Nat.toDigits 16 0xffff := (List.cons.inj hparts).1.symm
    exact toDigits_hex_inj.mp hdigits
  · rintro rfl
    rfl

/-- Hextets are no dotted text. -/
theorem isDottedDigits_hexText (r : List ℕ) : isDottedDigits (hexText r) = false := by
  have hnotMem : '.' ∉ hexText r := fun h =>
    (mem_hexText h).ne (by decide) (fun d hd => (digitChar_hex d hd).2.2.2.1) rfl
  rw [isDottedDigits, List.splitOn_eq_singleton hnotMem]
  rfl

/-- A mapped address is read back as its four octets. -/
theorem parseIpv4MappedIpv6_mapped {hi lo : ℕ} (hhi : hi < 65536) (hlo : lo < 65536) :
    parseIpv4MappedIpv6 (':' :: ':' :: hexText [0xffff, hi, lo]) =
      some (dottedText [hi / 256, hi % 256, lo / 256, lo % 256]) := by
  have hdrop : (hexText [0xffff, hi, lo]).drop 5 = hexText [hi, lo] := rfl
  have hoctet : ∀ n < 65536, (n >>> 8) &&& 0xff = n / 256 ∧ n &&& 0xff = n % 256 := by
    intro n hn
    have hshift : n >>> 8 = n / 256 := Nat.shiftRight_eq_div_pow n 8
    rw [hshift, Nat.and_two_pow_sub_one_eq_mod (n / 256) 8, Nat.and_two_pow_sub_one_eq_mod n 8]
    omega
  have hle : ¬(0xffff < hi ∨ 0xffff < lo) := by omega
  rw [parseIpv4MappedIpv6, afterMappedPrefix_compressed, if_pos (take_hexText_eq.mpr rfl), hdrop]
  simp only [isDottedDigits_hexText, splitOn_hexText (List.cons_ne_nil hi [lo]), List.map_cons,
    List.map_nil, isHextetText_toDigits hhi, isHextetText_toDigits hlo, parseDigits_hex,
    if_neg hle, (hoctet hi hhi).1, (hoctet hi hhi).2, (hoctet lo hlo).1, (hoctet lo hlo).2,
    Bool.and_self, if_true, Bool.false_eq_true, if_false]

/-- No other text compressed at the front is read as a mapped address. -/
theorem parseIpv4MappedIpv6_of_ne {r : List ℕ} (h : ∀ hi lo, r ≠ [0xffff, hi, lo]) :
    parseIpv4MappedIpv6 (':' :: ':' :: hexText r) = none := by
  rw [parseIpv4MappedIpv6, afterMappedPrefix_compressed]
  rcases r with _ | ⟨x, _ | ⟨y, r⟩⟩
  · rfl
  · rw [if_neg]
    intro htake
    have hmem : ':' ∈ (hexText [x]).take 5 := htake ▸ by decide
    have hdigits : ':' ∈ Nat.toDigits 16 x := by simpa [hexText] using List.mem_of_mem_take hmem
    exact notMem_toDigits_hex (fun d hd => (digitChar_hex d hd).2.2.1) x hdigits
  · by_cases hx : x = 0xffff
    · subst hx
      have hdrop : (hexText (0xffff :: y :: r)).drop 5 = hexText (y :: r) := by
        rw [hexText_cons_of_ne_nil _ (List.cons_ne_nil y r)]
        rfl
      rw [if_pos (take_hexText_eq.mpr rfl), hdrop]
      simp only [isDottedDigits_hexText, splitOn_hexText (List.cons_ne_nil y r), List.map_cons,
        Bool.false_eq_true, if_false]
      -- two parts would be two hextets
      rcases r with _ | ⟨z, _ | ⟨w, r⟩⟩
      · rfl
      · exact absurd rfl (h y z)
      · rfl
    · rw [if_neg (mt take_hexText_eq.mp hx)]

/-- **Compressed at the front**: the text is judged as the loopback address or a mapped one. -/
theorem isPrivateLiteral_compressed {r : List ℕ} (hr : ∀ n ∈ r, n < 65536) :
    isPrivateLiteral (':' :: ':' :: hexText r) = true ↔
      r = [1] ∨ ∃ hi lo, r = [0xffff, hi, lo] ∧ isPrivateOctets (hi / 256) (hi % 256) = true := by
  have hloopback : ':' :: ':' :: hexText r = "::1".toList ↔ r = [1] := by
    rw [← hexText_eq_one]
    exact ⟨fun h => (List.cons.inj (List.cons.inj h).2).2, fun h => by rw [h]; rfl⟩
  have hlocal : isIpv6UniqueLocalOrLinkLocal (':' :: ':' :: hexText r) = false := by
    have hsplit := List.splitOn_append_cons_self_of_not_mem
      (List.not_mem_nil : ':' ∉ []) (':' :: hexText r)
    rw [isIpv6UniqueLocalOrLinkLocal, if_neg (by simp)]
    rw [List.nil_append] at hsplit
    rw [hsplit]
    cases hparts : (':' :: hexText r).splitOn ':' with
    | nil => exact absurd hparts (List.splitOn_ne_nil _ _)
    | cons part parts => rfl
  have hdot : '.' ∉ ':' :: ':' :: hexText r := by
    simp only [List.mem_cons, not_or]
    exact ⟨by decide, by decide, fun h =>
      (mem_hexText h).ne (by decide) (fun d hd => (digitChar_hex d hd).2.2.2.1) rfl⟩
  rw [isPrivateLiteral, hlocal]
  by_cases hone : r = [1]
  · rw [if_pos (hloopback.mpr hone)]
    exact iff_of_true rfl (Or.inl hone)
  · rw [if_neg (mt hloopback.mp hone)]
    by_cases hmapped : ∃ hi lo, r = [0xffff, hi, lo]
    · obtain ⟨hi, lo, rfl⟩ := hmapped
      have hhi : hi < 65536 := hr hi (by simp)
      have hlo : lo < 65536 := hr lo (by simp)
      rw [parseIpv4MappedIpv6_mapped hhi hlo, Option.getD_some, parseIpv4_dottedText rfl]
      · simp
      · simp only [List.mem_cons, List.not_mem_nil, or_false]
        rintro n (rfl | rfl | rfl | rfl) <;> omega
    · push Not at hmapped
      rw [parseIpv4MappedIpv6_of_ne hmapped, Option.getD_none, parseIpv4_of_notMem hdot]
      simp [hone, hmapped]

/-! ## Exactness -/

/-- The addresses meant, by their hextets. -/
theorem privateIpv6_iff (addr : BitVec 128) :
    PrivateIpv6 addr ↔ hextets addr = [0, 0, 0, 0, 0, 0, 0, 1] ∨
      isLocalHextet (addr.toNat / 2 ^ 112) = true ∨
      ∃ hi lo, hextets addr = [0, 0, 0, 0, 0, 0xffff, hi, lo] ∧
        isPrivateOctets (hi / 256) (hi % 256) = true := by
  have hlt := addr.isLt
  have hloopback : addr = 1 ↔ hextets addr = [0, 0, 0, 0, 0, 0, 0, 1] := by
    rw [BitVec.toNat_eq]
    simp only [hextets, List.cons.injEq, and_true, BitVec.toNat_ofNat, BitVec.ofNat_eq_ofNat]
    omega
  have hlocal : (uniqueLocal.Contains addr ∨ linkLocal.Contains addr) ↔
      isLocalHextet (addr.toNat / 2 ^ 112) = true := by
    simp only [Cidr.Contains, uniqueLocal, linkLocal, isLocalHextet, BitVec.toNat_ofNat,
      Bool.or_eq_true, Bool.and_eq_true, decide_eq_true_eq]
    omega
  have hmapped : (∃ v4, addr = mappedIpv6 v4 ∧ PrivateIpv4 v4) ↔
      ∃ hi lo, hextets addr = [0, 0, 0, 0, 0, 0xffff, hi, lo] ∧
        isPrivateOctets (hi / 256) (hi % 256) = true := by
    simp only [privateIpv4_iff]
    constructor
    · rintro ⟨v4, rfl, hprivate⟩
      have hv4 := v4.isLt
      refine ⟨v4.toNat / 2 ^ 16, v4.toNat % 2 ^ 16, ?_, ?_⟩
      · simp only [hextets, mappedIpv6, List.cons.injEq, and_true, BitVec.toNat_ofNat]
        omega
      · have ha : v4.toNat / 2 ^ 16 / 256 = v4.toNat / 2 ^ 24 := by omega
        have hb : v4.toNat / 2 ^ 16 % 256 = v4.toNat / 2 ^ 16 % 2 ^ 8 := by omega
        rwa [ha, hb]
    · rintro ⟨hi, lo, hhextets, hprivate⟩
      simp only [hextets, List.cons.injEq, and_true] at hhextets
      refine ⟨BitVec.ofNat 32 (addr.toNat % 2 ^ 32), ?_, ?_⟩
      · rw [BitVec.toNat_eq]
        simp only [mappedIpv6, BitVec.toNat_ofNat]
        omega
      · have ha : (BitVec.ofNat 32 (addr.toNat % 2 ^ 32)).toNat / 2 ^ 24 = hi / 256 := by
          rw [BitVec.toNat_ofNat]
          omega
        have hb : (BitVec.ofNat 32 (addr.toNat % 2 ^ 32)).toNat / 2 ^ 16 % 2 ^ 8 = hi % 256 := by
          rw [BitVec.toNat_ofNat]
          omega
        rwa [ha, hb]
  rw [PrivateIpv6, hloopback, ← hlocal, ← hmapped, or_assoc]

/-- The loopback and the mapped addresses are compressed at the front. -/
theorem leadingRun_loopback : 2 ≤ zeroRun [0, 0, 0, 0, 0, 0, 0, 1] ∧
    zeroRun [0, 0, 0, 0, 0, 0, 0, 1] = longestZeroRun [0, 0, 0, 0, 0, 0, 0, 1] := by decide

theorem leadingRun_mapped (hi lo : ℕ) : 2 ≤ zeroRun [0, 0, 0, 0, 0, 0xffff, hi, lo] ∧
    zeroRun [0, 0, 0, 0, 0, 0xffff, hi, lo] =
      longestZeroRun [0, 0, 0, 0, 0, 0xffff, hi, lo] := by
  by_cases hhi : hi = 0 <;> by_cases hlo : lo = 0 <;>
    simp [zeroRun, longestZeroRun, hhi, hlo]

/-- A leading run of a known length, and what comes after, determine the list. -/
theorem drop_zeroRun_eq {l r : List ℕ} {k : ℕ} (h : l.drop (zeroRun l) = r)
    (hlength : l.length = k + r.length) : l = List.replicate k 0 ++ r := by
  have hsplit := eq_replicate_append l
  rw [h] at hsplit
  have hrun := congrArg List.length hsplit
  rw [List.length_append, List.length_replicate, hlength] at hrun
  rwa [← Nat.add_right_cancel hrun] at hsplit

/-- The guard on IPv6 addresses. -/
theorem isPrivateOrLocalHost_ipv6 (addr : BitVec 128) :
    isPrivateOrLocalHost (ipv6Host addr) = true ↔ PrivateIpv6 addr := by
  have hlt : ∀ n ∈ hextets addr, n < 65536 := lt_of_mem_hextets
  rw [ipv6Host, isPrivateOrLocalHost_bracketed, privateIpv6_iff]
  obtain ⟨y, tail, hshape⟩ : ∃ y tail, hextets addr = addr.toNat / 2 ^ 112 :: y :: tail :=
    ⟨_, _, rfl⟩
  have hlength : (hextets addr).length = 8 := rfl
  by_cases hlead : 2 ≤ zeroRun (hextets addr) ∧
      zeroRun (hextets addr) = longestZeroRun (hextets addr)
  · -- compressed at the front
    have hfirst : isLocalHextet (addr.toNat / 2 ^ 112) = false := by
      have hzero : addr.toNat / 2 ^ 112 = 0 := by
        by_contra hne
        have hrun : zeroRun (hextets addr) = 0 := by rw [hshape, zeroRun_cons_of_ne hne]
        omega
      rw [hzero]
      rfl
    rw [ipv6Text_of_leadingRun hlead.1 hlead.2,
      isPrivateLiteral_compressed fun n hn => hlt n (List.mem_of_mem_drop hn), hfirst]
    constructor
    · rintro (h | ⟨hi, lo, h, hprivate⟩)
      · exact Or.inl (drop_zeroRun_eq h hlength)
      · exact Or.inr (Or.inr ⟨hi, lo, drop_zeroRun_eq h hlength, hprivate⟩)
    · rintro (h | h | ⟨hi, lo, h, hprivate⟩)
      · exact Or.inl (by rw [h]; rfl)
      · cases h
      · exact Or.inr ⟨hi, lo, by rw [h]; rfl, hprivate⟩
  · -- the first hextet is written out
    have hstart : StartsWithHextet (addr.toNat / 2 ^ 112) (ipv6Text (hextets addr)) := by
      rw [hshape] at hlead ⊢
      exact ipv6Text_of_not_leadingRun hlead
    have hdot : '.' ∉ ipv6Text (hextets addr) := fun h =>
      (mem_ipv6Text h).ne (by decide) (fun d hd => (digitChar_hex d hd).2.2.2.1) rfl
    have hx : addr.toNat / 2 ^ 112 < 65536 := hlt _ List.mem_cons_self
    rw [isPrivateLiteral_of_startsWithHextet hx hstart hdot]
    refine ⟨fun h => Or.inr (Or.inl h), ?_⟩
    rintro (h | h | ⟨hi, lo, h, -⟩)
    · exact absurd leadingRun_loopback (h ▸ hlead)
    · exact h
    · exact absurd (leadingRun_mapped hi lo) (h ▸ hlead)

/-- **The guard is exact on IP literals**: of all IPv4 and IPv6 addresses, in the text of a parsed
URL, it rejects the private ones and no other. -/
theorem isPrivateOrLocalHost_exact :
    (∀ addr : BitVec 32, isPrivateOrLocalHost (ipv4Host addr) = true ↔ PrivateIpv4 addr) ∧
      ∀ addr : BitVec 128, isPrivateOrLocalHost (ipv6Host addr) = true ↔ PrivateIpv6 addr :=
  ⟨isPrivateOrLocalHost_ipv4, isPrivateOrLocalHost_ipv6⟩

end ipv6

end GuardianStake.Sdk
