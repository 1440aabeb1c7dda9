import Mathlib.Algebra.Group.Nat.Defs
import Mathlib.Data.List.Basic
import Mathlib.Data.List.GetD
import Mathlib.Data.List.Induction

/-! Byte strings: fixed-width big-endian numbers, and URL-safe Base64 without padding that
accepts canonical encodings only. -/
namespace Bytes

/-- The lowest `count` bytes of the number, most significant first. -/
def toBeBytes : Nat → Nat → List UInt8
  | 0, _ => []
  | count + 1, n => toBeBytes count (n / 256) ++ [UInt8.ofNat n]

/-- The number that the bytes denote, most significant first. -/
def fromBeBytes (bytes : List UInt8) : Nat := bytes.foldl (fun n b => n * 256 + b.toNat) 0

@[simp] theorem toBeBytes_length (count n : Nat) : (toBeBytes count n).length = count := by
  induction count generalizing n with
  | zero => rfl
  | succ count ih => simp [toBeBytes, ih]

theorem fromBeBytes_toBeBytes {count n : Nat} (h : n < 256 ^ count) :
    fromBeBytes (toBeBytes count n) = n := by
  induction count generalizing n with
  | zero =>
    have hn : n = 0 := by simpa using h
    rw [hn]
    rfl
  | succ count ih =>
    have hdiv : n / 256 < 256 ^ count := Nat.div_lt_of_lt_mul (by rwa [Nat.pow_succ'] at h)
    have hinit := ih hdiv
    unfold fromBeBytes at hinit
    have hbyte : (UInt8.ofNat n).toNat = n % 256 := UInt8.toNat_ofNat'
    simp only [fromBeBytes, toBeBytes, List.foldl_append, hinit, List.foldl_cons, List.foldl_nil,
      hbyte]
    omega

theorem fromBeBytes_concat (bytes : List UInt8) (b : UInt8) :
    fromBeBytes (bytes ++ [b]) = fromBeBytes bytes * 256 + b.toNat := by
  unfold fromBeBytes
  rw [List.foldl_append]
  rfl

theorem fromBeBytes_lt (bytes : List UInt8) : fromBeBytes bytes < 256 ^ bytes.length := by
  induction bytes using List.reverseRecOn with
  | nil => exact Nat.one_pos
  | append_singleton bytes b ih =>
    have hb := b.toNat_lt
    rw [fromBeBytes_concat, List.length_append, List.length_singleton, Nat.pow_succ]
    omega

/-- The bytes are the only spelling of their number at their length. -/
theorem toBeBytes_fromBeBytes (bytes : List UInt8) :
    toBeBytes bytes.length (fromBeBytes bytes) = bytes := by
  induction bytes using List.reverseRecOn with
  | nil => rfl
  | append_singleton bytes b ih =>
    have hb := b.toNat_lt
    have hdiv : (fromBeBytes bytes * 256 + b.toNat) / 256 = fromBeBytes bytes := by omega
    have hlast : UInt8.ofNat (fromBeBytes bytes * 256 + b.toNat) = b := by
      apply UInt8.toNat_inj.mp
      rw [UInt8.toNat_ofNat']
      omega
    rw [fromBeBytes_concat, List.length_append, List.length_singleton, toBeBytes, hdiv, ih, hlast]

end Bytes

namespace Base64

/-- The URL-safe alphabet. -/
def alphabet : List Char :=
  "ABCDEFGHIJKLMNOPQRSTUVWXYZabcdefghijklmnopqrstuvwxyz0123456789-_".toList

def encodeSextet (n : Nat) : Char := alphabet.getD n 'A'

def decodeSextet (c : Char) : Option Nat := alphabet.idxOf? c

/-- Encodes groups of three bytes, and a shorter last group without padding. -/
def encodeBytes : List UInt8 → List Char
  | [] => []
  | [a] => [encodeSextet (a.toNat / 4), encodeSextet (a.toNat % 4 * 16)]
  | [a, b] => [encodeSextet (a.toNat / 4), encodeSextet (a.toNat % 4 * 16 + b.toNat / 16),
      encodeSextet (b.toNat % 16 * 4)]
  | a :: b :: c :: rest => encodeSextet (a.toNat / 4) ::
      encodeSextet (a.toNat % 4 * 16 + b.toNat / 16) ::
      encodeSextet (b.toNat % 16 * 4 + c.toNat / 64) :: encodeSextet (c.toNat % 64) ::
      encodeBytes rest

/-- Decodes groups of four symbols; the unused bits of a shorter last group must be zero. -/
def decodeChars : List Char → Option (List UInt8)
  | [] => some []
  | [_] => none
  | [w, x] => do
    let s ← decodeSextet w
    let t ← decodeSextet x
    if t % 16 = 0 then some [UInt8.ofNat (s * 4 + t / 16)] else none
  | [w, x, y] => do
    let s ← decodeSextet w
    let t ← decodeSextet x
    let u ← decodeSextet y
    if u % 4 = 0 then
      some [UInt8.ofNat (s * 4 + t / 16), UInt8.ofNat (t % 16 * 16 + u / 4)]
    else none
  | w :: x :: y :: z :: rest => do
    let s ← decodeSextet w
    let t ← decodeSextet x
    let u ← decodeSextet y
    let v ← decodeSextet z
    let tail ← decodeChars rest
    some (UInt8.ofNat (s * 4 + t / 16) :: UInt8.ofNat (t % 16 * 16 + u / 4) ::
      UInt8.ofNat (u % 4 * 64 + v) :: tail)

def encode (bytes : List UInt8) : String := String.ofList (encodeBytes bytes)

def decode (text : String) : Option (List UInt8) := decodeChars text.toList

@[simp] theorem decodeSextet_encodeSextet {n : Nat} (h : n < 64) :
    decodeSextet (encodeSextet n) = some n := by
  have hall : ∀ i : Fin 64, decodeSextet (encodeSextet i) = some i.val := by decide +kernel
  exact hall ⟨n, h⟩

private theorem byte_eq {a : UInt8} {n : Nat} (h : n = a.toNat) : UInt8.ofNat n = a := by
  rw [h, UInt8.ofNat_toNat]

theorem decodeChars_encodeBytes (bytes : List UInt8) :
    decodeChars (encodeBytes bytes) = some bytes := by
  induction bytes using encodeBytes.induct with
  | case1 => rfl
  | case2 a =>
    have ha := a.toNat_lt
    have hs := decodeSextet_encodeSextet (n := a.toNat / 4) (by omega)
    have ht := decodeSextet_encodeSextet (n := a.toNat % 4 * 16) (by omega)
    have hzero : a.toNat % 4 * 16 % 16 = 0 := by omega
    have hbyte : UInt8.ofNat (a.toNat / 4 * 4 + a.toNat % 4 * 16 / 16) = a :=
      byte_eq (by omega)
    simp only [encodeBytes, decodeChars, hs, ht, Option.bind_eq_bind, Option.bind_some, hzero,
      if_true, hbyte]
  | case3 a b =>
    have ha := a.toNat_lt
    have hb := b.toNat_lt
    have hs := decodeSextet_encodeSextet (n := a.toNat / 4) (by omega)
    have ht := decodeSextet_encodeSextet (n := a.toNat % 4 * 16 + b.toNat / 16) (by omega)
    have hu := decodeSextet_encodeSextet (n := b.toNat % 16 * 4) (by omega)
    have hzero : b.toNat % 16 * 4 % 4 = 0 := by omega
    have hfirst : UInt8.ofNat (a.toNat / 4 * 4 + (a.toNat % 4 * 16 + b.toNat / 16) / 16) = a :=
      byte_eq (by omega)
    have hsecond : UInt8.ofNat ((a.toNat % 4 * 16 + b.toNat / 16) % 16 * 16 +
        b.toNat % 16 * 4 / 4) = b := byte_eq (by omega)
    simp only [encodeBytes, decodeChars, hs, ht, hu, Option.bind_eq_bind, Option.bind_some, hzero,
      if_true, hfirst, hsecond]
  | case4 a b c rest ih =>
    have ha := a.toNat_lt
    have hb := b.toNat_lt
    have hc := c.toNat_lt
    have hs := decodeSextet_encodeSextet (n := a.toNat / 4) (by omega)
    have ht := decodeSextet_encodeSextet (n := a.toNat % 4 * 16 + b.toNat / 16) (by omega)
    have hu := decodeSextet_encodeSextet (n := b.toNat % 16 * 4 + c.toNat / 64) (by omega)
    have hv := decodeSextet_encodeSextet (n := c.toNat % 64) (by omega)
    have hfirst : UInt8.ofNat (a.toNat / 4 * 4 + (a.toNat % 4 * 16 + b.toNat / 16) / 16) = a :=
      byte_eq (by omega)
    have hsecond : UInt8.ofNat ((a.toNat % 4 * 16 + b.toNat / 16) % 16 * 16 +
        (b.toNat % 16 * 4 + c.toNat / 64) / 4) = b := byte_eq (by omega)
    have hthird : UInt8.ofNat ((b.toNat % 16 * 4 + c.toNat / 64) % 4 * 64 + c.toNat % 64) = c :=
      byte_eq (by omega)
    simp only [encodeBytes, decodeChars, hs, ht, hu, hv, ih, Option.bind_eq_bind, Option.bind_some,
      hfirst, hsecond, hthird]

@[simp] theorem decode_encode (bytes : List UInt8) : decode (encode bytes) = some bytes := by
  rw [decode, encode, String.toList_ofList, decodeChars_encodeBytes]

theorem encodeSextet_of_decodeSextet {c : Char} {n : Nat} (h : decodeSextet c = some n) :
    n < 64 ∧ encodeSextet n = c := by
  unfold decodeSextet at h
  obtain ⟨hlt, hget, -⟩ := List.idxOf?_eq_some_iff.mp h
  have hlength : alphabet.length = 64 := by decide +kernel
  refine ⟨hlength ▸ hlt, ?_⟩
  rw [encodeSextet, List.getD_eq_getElem _ _ hlt, hget]

/-- Only encodings decode: the decoder accepts one spelling of each byte string. -/
theorem encodeBytes_of_decodeChars {chars : List Char} {bytes : List UInt8}
    (h : decodeChars chars = some bytes) : encodeBytes bytes = chars := by
  induction chars using decodeChars.induct generalizing bytes with
  | case1 =>
    cases h
    rfl
  | case2 _ => cases h
  | case3 w x =>
    simp only [decodeChars, Option.bind_eq_bind, Option.bind_eq_some_iff] at h
    obtain ⟨s, hs, t, ht, h⟩ := h
    split_ifs at h with hzero
    obtain ⟨hs64, hw⟩ := encodeSextet_of_decodeSextet hs
    obtain ⟨ht64, hx⟩ := encodeSextet_of_decodeSextet ht
    have ha : (UInt8.ofNat (s * 4 + t / 16)).toNat = s * 4 + t / 16 :=
      UInt8.toNat_ofNat_of_lt' (show _ < 256 by omega)
    have hfirst : (s * 4 + t / 16) / 4 = s := by omega
    have hsecond : (s * 4 + t / 16) % 4 * 16 = t := by omega
    cases h
    simp only [encodeBytes, ha, hfirst, hsecond, hw, hx]
  | case4 w x y =>
    simp only [decodeChars, Option.bind_eq_bind, Option.bind_eq_some_iff] at h
    obtain ⟨s, hs, t, ht, u, hu, h⟩ := h
    split_ifs at h with hzero
    obtain ⟨hs64, hw⟩ := encodeSextet_of_decodeSextet hs
    obtain ⟨ht64, hx⟩ := encodeSextet_of_decodeSextet ht
    obtain ⟨hu64, hy⟩ := encodeSextet_of_decodeSextet hu
    have ha : (UInt8.ofNat (s * 4 + t / 16)).toNat = s * 4 + t / 16 :=
      UInt8.toNat_ofNat_of_lt' (show _ < 256 by omega)
    have hb : (UInt8.ofNat (t % 16 * 16 + u / 4)).toNat = t % 16 * 16 + u / 4 :=
      UInt8.toNat_ofNat_of_lt' (show _ < 256 by omega)
    have hfirst : (s * 4 + t / 16) / 4 = s := by omega
    have hsecond : (s * 4 + t / 16) % 4 * 16 + (t % 16 * 16 + u / 4) / 16 = t := by omega
    have hthird : (t % 16 * 16 + u / 4) % 16 * 4 = u := by omega
    cases h
    simp only [encodeBytes, ha, hb, hfirst, hsecond, hthird, hw, hx, hy]
  | case5 w x y z rest ih =>
    simp only [decodeChars, Option.bind_eq_bind, Option.bind_eq_some_iff] at h
    obtain ⟨s, hs, t, ht, u, hu, v, hv, tail, htail, h⟩ := h
    obtain ⟨hs64, hw⟩ := encodeSextet_of_decodeSextet hs
    obtain ⟨ht64, hx⟩ := encodeSextet_of_decodeSextet ht
    obtain ⟨hu64, hy⟩ := encodeSextet_of_decodeSextet hu
    obtain ⟨hv64, hz⟩ := encodeSextet_of_decodeSextet hv
    have ha : (UInt8.ofNat (s * 4 + t / 16)).toNat = s * 4 + t / 16 :=
      UInt8.toNat_ofNat_of_lt' (show _ < 256 by omega)
    have hb : (UInt8.ofNat (t % 16 * 16 + u / 4)).toNat = t % 16 * 16 + u / 4 :=
      UInt8.toNat_ofNat_of_lt' (show _ < 256 by omega)
    have hc : (UInt8.ofNat (u % 4 * 64 + v)).toNat = u % 4 * 64 + v :=
      UInt8.toNat_ofNat_of_lt' (show _ < 256 by omega)
    have hfirst : (s * 4 + t / 16) / 4 = s := by omega
    have hsecond : (s * 4 + t / 16) % 4 * 16 + (t % 16 * 16 + u / 4) / 16 = t := by omega
    have hthird : (t % 16 * 16 + u / 4) % 16 * 4 + (u % 4 * 64 + v) / 64 = u := by omega
    have hfourth : (u % 4 * 64 + v) % 64 = v := by omega
    cases h
    simp only [encodeBytes, ha, hb, hc, hfirst, hsecond, hthird, hfourth, hw, hx, hy, hz,
      ih htail]

/-- A text decodes exactly when it is the encoding. -/
theorem decode_eq_some {text : String} {bytes : List UInt8} :
    decode text = some bytes ↔ text = encode bytes := by
  constructor
  · intro h
    rw [encode, encodeBytes_of_decodeChars h, String.ofList_toList]
  · intro h
    rw [h, decode_encode]

theorem encode_injective : Function.Injective encode := by
  intro a b h
  have hdecoded := decode_eq_some.mpr h
  rw [decode_encode] at hdecoded
  exact Option.some.inj hdecoded

end Base64
