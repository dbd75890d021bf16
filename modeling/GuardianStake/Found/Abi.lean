import Mathlib

/-!
# Call data of contracts

Tuples of one-word values and of arrays of such, laid out in words: a head with a word for each
component, which for an array is the position of its words in the tail. Nothing here names a
program.

* `layout`, `encode` — the words of a tuple; `decode` — the tuple of words.
* `decode_encode` — **what is encoded is decoded as itself**, whatever the arrays.
* `hexDigits`, `ofHexDigits` — words in hex, and `decodeHex_encodeHex` for texts.
* `Interface` — the functions of a contract; `decodeCall_encodeCall` — **a call is dispatched as
  itself**, where no two functions share a selector.
-/

namespace GuardianStake.Found.Abi

/-! ## Types and values -/

/-- Types whose values take one word. -/
inductive Elem
  | address
  | uint256
  | bool
  deriving DecidableEq, Repr

/-- How many values a type has. -/
def Elem.card : Elem → ℕ
  | .address => 2 ^ 160
  | .uint256 => 2 ^ 256
  | .bool => 2

/-- The values of an element fit a word. -/
theorem Elem.card_le (e : Elem) : e.card ≤ 2 ^ 256 := by
  cases e <;> norm_num [Elem.card]

/-- Types of components. -/
inductive Ty
  | elem (e : Elem)
  | array (e : Elem)
  deriving DecidableEq, Repr

/-- A tuple of values of types. -/
inductive Tuple : List Ty → Type
  | nil : Tuple []
  | word {e : Elem} {ts : List Ty} (x : Fin e.card) (v : Tuple ts) : Tuple (.elem e :: ts)
  | array {e : Elem} {ts : List Ty} (xs : List (Fin e.card)) (v : Tuple ts) :
      Tuple (.array e :: ts)
  deriving DecidableEq

/-- The only tuple of no types. -/
theorem Tuple.eq_nil (v : Tuple []) : v = .nil := by
  cases v
  rfl

/-- A tuple that starts with an element starts with a word. -/
theorem Tuple.exists_word {e : Elem} {ts : List Ty} (v : Tuple (.elem e :: ts)) :
    ∃ x rest, v = .word x rest := by
  cases v with
  | word x rest => exact ⟨x, rest, rfl⟩

/-- One that starts with an array starts with its elements. -/
theorem Tuple.exists_array {e : Elem} {ts : List Ty} (v : Tuple (.array e :: ts)) :
    ∃ xs rest, v = .array xs rest := by
  cases v with
  | array xs rest => exact ⟨xs, rest, rfl⟩

/-! ## Words -/

/-- The head and the tail of a tuple whose tail starts at a word. -/
def layout : {ts : List Ty} → Tuple ts → ℕ → List ℕ × List ℕ
  | _, .nil, _ => ([], [])
  | _, .word x v, start =>
      let rest := layout v start
      (x.val :: rest.1, rest.2)
  | _, .array xs v, start =>
      let rest := layout v (start + 1 + xs.length)
      (32 * start :: rest.1, xs.length :: (xs.map Fin.val ++ rest.2))

/-- The words of a tuple. -/
def encode {ts : List Ty} (v : Tuple ts) : List ℕ :=
  (layout v ts.length).1 ++ (layout v ts.length).2

/-- A word as a value. -/
def ofWord (e : Elem) (w : ℕ) : Option (Fin e.card) :=
  if h : w < e.card then some ⟨w, h⟩ else none

/-- The array at a position in bytes. -/
def decodeArray (e : Elem) (words : List ℕ) (position : ℕ) : Option (List (Fin e.card)) :=
  if position % 32 = 0 then
    match words.drop (position / 32) with
    | [] => none
    | n :: rest => if n ≤ rest.length then (rest.take n).mapM (ofWord e) else none
  else none

/-- The tuple of a head, with its arrays among the words. -/
def decodeHead : (ts : List Ty) → (words head : List ℕ) → Option (Tuple ts)
  | [], _, _ => some .nil
  | .elem e :: ts, words, w :: head => do
      let x ← ofWord e w
      let v ← decodeHead ts words head
      return .word x v
  | .array e :: ts, words, w :: head => do
      let xs ← decodeArray e words w
      let v ← decodeHead ts words head
      return .array xs v
  | _ :: _, _, [] => none

/-- The tuple of words; what follows it is not looked at. -/
def decode (ts : List Ty) (words : List ℕ) : Option (Tuple ts) := decodeHead ts words words

section words

variable {ts : List Ty} {e : Elem}

/-- The head has a word for each type. -/
@[simp] theorem length_layout_fst (v : Tuple ts) (start : ℕ) :
    (layout v start).1.length = ts.length := by
  induction v generalizing start with
  | nil => rfl
  | word x v ih => simp [layout, ih]
  | array xs v ih => simp [layout, ih]

/-- The word of a value is read as the value. -/
@[simp] theorem ofWord_val (x : Fin e.card) : ofWord e x.val = some x := dif_pos x.isLt

/-- So are the words of a list of values. -/
theorem mapM_ofWord (xs : List (Fin e.card)) : (xs.map Fin.val).mapM (ofWord e) = some xs := by
  induction xs with
  | nil => rfl
  | cons x xs ih =>
      rw [List.map_cons, List.mapM_cons, ofWord_val, ih]
      rfl

/-- An array at the start of the words from a position on. -/
theorem decodeArray_of_drop {words rest : List ℕ} {start : ℕ} {xs : List (Fin e.card)}
    (h : words.drop start = xs.length :: (xs.map Fin.val ++ rest)) :
    decodeArray e words (32 * start) = some xs := by
  have hlen : xs.length = (xs.map Fin.val).length := (List.length_map ..).symm
  rw [decodeArray, if_pos (Nat.mul_mod_right 32 start), Nat.mul_div_cancel_left _ (by norm_num), h]
  show (if xs.length ≤ (xs.map Fin.val ++ rest).length then _ else _) = _
  rw [if_pos (by simp), List.take_left' hlen.symm, mapM_ofWord]

/-- **A head is decoded as its tuple**, where the tail stands at the position it was laid out
for. -/
theorem decodeHead_layout (v : Tuple ts) {start : ℕ} {words rest : List ℕ} (more : List ℕ)
    (h : words.drop start = (layout v start).2 ++ rest) :
    decodeHead ts words ((layout v start).1 ++ more) = some v := by
  induction v generalizing start rest with
  | nil => rfl
  | @word e ts x v ih =>
      rw [layout, List.cons_append, decodeHead, ofWord_val, ih h]
      rfl
  | @array e ts xs v ih =>
      have harray : words.drop start = xs.length ::
          (xs.map Fin.val ++ ((layout v (start + 1 + xs.length)).2 ++ rest)) := by
        rw [h, layout, List.cons_append, List.append_assoc]
      -- the next array starts after this one
      have hrest : words.drop (start + 1 + xs.length) =
          (layout v (start + 1 + xs.length)).2 ++ rest := by
        rw [Nat.add_assoc, Nat.add_comm 1, ← List.drop_drop, harray, List.drop_succ_cons,
          List.drop_left' (List.length_map ..), Nat.add_assoc, Nat.add_comm 1]
      rw [layout, List.cons_append, decodeHead, decodeArray_of_drop harray, ih hrest]
      rfl

/-- **What is encoded is decoded as itself**, whatever follows. -/
theorem decode_encode (v : Tuple ts) (rest : List ℕ) : decode ts (encode v ++ rest) = some v := by
  have htail : (encode v ++ rest).drop ts.length = (layout v ts.length).2 ++ rest := by
    rw [encode, List.append_assoc, List.drop_left' (length_layout_fst v _)]
  have hhead := decodeHead_layout v ((layout v ts.length).2 ++ rest) htail
  rwa [← List.append_assoc] at hhead

/-- The words of a tuple that is not too long fit 256 bits. -/
theorem lt_of_mem_layout (v : Tuple ts) {start : ℕ}
    (hsize : 32 * (start + (layout v start).2.length) < 2 ^ 256) :
    ∀ w ∈ (layout v start).1 ++ (layout v start).2, w < 2 ^ 256 := by
  induction v generalizing start with
  | nil =>
      intro w hw
      exact absurd hw List.not_mem_nil
  | word x v ih =>
      intro w hw
      rcases List.mem_cons.mp hw with rfl | hw
      · exact x.isLt.trans_le (Elem.card_le _)
      · exact ih hsize w hw
  | array xs v ih =>
      intro w hw
      have hlen : (layout (.array xs v) start).2.length =
          1 + xs.length + (layout v (start + 1 + xs.length)).2.length := by
        simp [layout]
        omega
      have hrest := @ih (start + 1 + xs.length) (by omega) w
      have hmem : w = 32 * start ∨ w = xs.length ∨ w ∈ xs.map Fin.val ∨
          w ∈ (layout v (start + 1 + xs.length)).1 ++ (layout v (start + 1 + xs.length)).2 := by
        simp only [layout, List.mem_append, List.mem_cons] at hw ⊢
        tauto
      rcases hmem with rfl | rfl | hw | hw
      · omega
      · omega
      · obtain ⟨x, -, rfl⟩ := List.mem_map.mp hw
        exact x.isLt.trans_le (Elem.card_le _)
      · exact hrest hw

end words

/-! ## Texts -/

/-- The hex digits. -/
def hexAlphabet : List Char := "0123456789abcdef".toList

/-- The last digits of a number in hex, as many as are asked for. -/
def hexDigits : ℕ → ℕ → List Char
  | 0, _ => []
  | k + 1, n => hexDigits k (n / 16) ++ [hexAlphabet.getD (n % 16) '0']

/-- The value of a hex digit, in either case. -/
def hexValue (c : Char) : Option ℕ :=
  let i := hexAlphabet.idxOf c.toLower
  if i < 16 then some i else none

/-- The number of hex digits, after one that stands before them. -/
def ofHexDigits (before : ℕ) : List Char → Option ℕ
  | [] => some before
  | c :: cs => do
      let d ← hexValue c
      ofHexDigits (16 * before + d) cs

/-- The first words of a text. -/
def wordsOfHex : ℕ → List Char → Option (List ℕ)
  | 0, _ => some []
  | k + 1, cs => do
      let w ← ofHexDigits 0 (cs.take 64)
      let ws ← wordsOfHex k (cs.drop 64)
      return w :: ws

/-- The text of a tuple, without a prefix. -/
def encodeHex {ts : List Ty} (v : Tuple ts) : List Char := (encode v).flatMap (hexDigits 64)

/-- The tuple of a text. -/
def decodeHex (ts : List Ty) (cs : List Char) : Option (Tuple ts) := do
  decode ts (← wordsOfHex (cs.length / 64) cs)

example :
    encodeHex (Tuple.word (e := .bool) (1 : Fin 2) .nil) = List.replicate 63 '0' ++ ['1'] := by
  decide +kernel

section texts

variable {ts : List Ty}

/-- A number of digits is written. -/
@[simp] theorem length_hexDigits (k n : ℕ) : (hexDigits k n).length = k := by
  induction k generalizing n with
  | zero => rfl
  | succ k ih => simp [hexDigits, ih]

/-- A digit of the alphabet is read as its position. -/
theorem hexValue_hexAlphabet {d : ℕ} (hd : d < 16) :
    hexValue (hexAlphabet.getD d '0') = some d := by
  interval_cases d <;> rfl

/-- Reading goes from left to right. -/
theorem ofHexDigits_append (before : ℕ) (cs cs' : List Char) :
    ofHexDigits before (cs ++ cs') = (do ofHexDigits (← ofHexDigits before cs) cs') := by
  induction cs generalizing before with
  | nil => rfl
  | cons c cs ih =>
      rw [List.cons_append, ofHexDigits, ofHexDigits]
      cases hexValue c with
      | none => rfl
      | some d => exact ih _

/-- **The digits of a number are read as that number.** -/
theorem ofHexDigits_hexDigits {k n : ℕ} (hn : n < 16 ^ k) (before : ℕ) :
    ofHexDigits before (hexDigits k n) = some (before * 16 ^ k + n) := by
  induction k generalizing n with
  | zero =>
      obtain rfl : n = 0 := by simpa using hn
      simp [hexDigits, ofHexDigits]
  | succ k ih =>
      rw [pow_succ] at hn
      have hdigit := hexValue_hexAlphabet (Nat.mod_lt n (by norm_num : 0 < 16))
      rw [hexDigits, ofHexDigits_append, ih (Nat.div_lt_of_lt_mul (by omega))]
      show (do
        let d ← hexValue (hexAlphabet.getD (n % 16) '0')
        ofHexDigits (16 * (before * 16 ^ k + n / 16) + d) []) = _
      rw [hdigit]
      show some (16 * (before * 16 ^ k + n / 16) + n % 16) = _
      rw [pow_succ, Option.some.injEq]
      have hsplit := Nat.div_add_mod n 16
      ring_nf
      ring_nf at hsplit
      omega

/-- Words in hex are read as those words. -/
theorem wordsOfHex_flatMap {ws : List ℕ} (hws : ∀ w ∈ ws, w < 2 ^ 256) (rest : List Char) :
    wordsOfHex ws.length (ws.flatMap (hexDigits 64) ++ rest) = some ws := by
  induction ws with
  | nil => rfl
  | cons w ws ih =>
      have hw : w < 16 ^ 64 := (hws w List.mem_cons_self).trans_le (by norm_num)
      rw [List.flatMap_cons, List.append_assoc, List.length_cons, wordsOfHex,
        List.take_left' (length_hexDigits ..), List.drop_left' (length_hexDigits ..),
        ofHexDigits_hexDigits hw, ih fun w hw => hws w (List.mem_cons_of_mem _ hw)]
      simp

/-- A word takes up 64 digits. -/
theorem length_flatMap_hexDigits (ws : List ℕ) :
    (ws.flatMap (hexDigits 64)).length = 64 * ws.length := by
  induction ws with
  | nil => rfl
  | cons w ws ih =>
      rw [List.flatMap_cons, List.length_append, ih, length_hexDigits, List.length_cons]
      ring

/-- **The text of a tuple is decoded as that tuple.** -/
theorem decodeHex_encodeHex (v : Tuple ts) (hsize : 32 * (encode v).length < 2 ^ 256) :
    decodeHex ts (encodeHex v) = some v := by
  have hlen : (encode v).length = ts.length + (layout v ts.length).2.length := by
    rw [encode, List.length_append, length_layout_fst]
  have hwords := wordsOfHex_flatMap (lt_of_mem_layout v (hlen ▸ hsize)) []
  rw [List.append_nil] at hwords
  have hdecode := decode_encode v []
  rw [List.append_nil] at hdecode
  rw [decodeHex, encodeHex, length_flatMap_hexDigits, Nat.mul_div_cancel_left _ (by norm_num)]
  show (do decode ts (← wordsOfHex (encode v).length ((encode v).flatMap (hexDigits 64)))) = _
  rw [show wordsOfHex (encode v).length ((encode v).flatMap (hexDigits 64)) = some (encode v) from
    hwords]
  exact hdecode

end texts

/-! ## Calls -/

/-- The functions of a contract, with the types of their arguments and of their results. -/
structure Interface (F : Type) where
  functions : List F
  mem_functions : ∀ f, f ∈ functions
  inputs : F → List Ty
  outputs : F → List Ty

section calls

variable {F : Type}

/-- A call: a function and its arguments. -/
abbrev Interface.Call (I : Interface F) : Type := (f : F) × Tuple (I.inputs f)

/-- The text of a call: the selector of its function, then its arguments. -/
def Interface.encodeCall (I : Interface F) (selector : F → List Char) (call : I.Call) :
    List Char :=
  selector call.1 ++ encodeHex call.2

/-- What a contract makes of a text, where selectors have a length. -/
def Interface.decodeCall (I : Interface F) (selector : F → List Char) (k : ℕ) (cs : List Char) :
    Option I.Call := do
  let f ← I.functions.find? fun f => selector f = cs.take k
  let v ← decodeHex (I.inputs f) (cs.drop k)
  return ⟨f, v⟩

/-- **A call is dispatched as itself**, where no two functions share a selector. -/
theorem Interface.decodeCall_encodeCall (I : Interface F) {selector : F → List Char} {k : ℕ}
    (hlen : ∀ f, (selector f).length = k) (hinj : Function.Injective selector) (call : I.Call)
    (hsize : 32 * (encode call.2).length < 2 ^ 256) :
    I.decodeCall selector k (I.encodeCall selector call) = some call := by
  have hfind : (I.functions.find? fun f => selector f = selector call.1) = some call.1 := by
    have hsome : (I.functions.find? fun f => selector f = selector call.1).isSome :=
      List.find?_isSome.mpr ⟨call.1, I.mem_functions call.1, decide_eq_true rfl⟩
    obtain ⟨f, hf⟩ := Option.isSome_iff_exists.mp hsome
    have hselector : selector f = selector call.1 := by simpa using List.find?_some hf
    rw [hf, hinj hselector]
  rw [decodeCall, encodeCall, List.take_left' (hlen call.1), List.drop_left' (hlen call.1), hfind]
  show (do
    let v ← decodeHex (I.inputs call.1) (encodeHex call.2)
    return (⟨call.1, v⟩ : I.Call)) = some call
  rw [decodeHex_encodeHex call.2 hsize]
  rfl

end calls

end GuardianStake.Found.Abi
