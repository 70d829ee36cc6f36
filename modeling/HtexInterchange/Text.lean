import HtexInterchange.Python

/-!
# HtexInterchange.Text

The `str` and `bytes` operations the command server and the version check use, on the code
points of a string (`String.data`):

1. `rsplitHead` — `v.rsplit(sep, 1)[0]`, the text before the last separator;
2. `encodeUtf8`, `decodeUtf8` — `str.encode('utf-8')` and the strict `bytes.decode('utf-8')`;
3. `PyStr` — a `str` as the command server receives it, which may hold lone surrogates, with
   `startswith`, `split` on one character, and an `encode('utf-8')` that raises on a surrogate.

The decoder reads one character at a time, from the length its leading byte announces, and
accepts it only when it re-encodes to the same bytes.  That rejects what CPython's strict
decoder rejects (truncated and overlong sequences, surrogates, code points past U+10FFFF,
stray continuation bytes), and makes the round trip `encodeUtf8_of_decodeUtf8` hold by
construction.
-/

namespace HtexInterchange

/-! ## str -/

/-- `v.rsplit(sep, 1)[0]`: the text before the last `sep`, or all of `v` when it has none. -/
def rsplitHead (v : String) (sep : Char) : String :=
  if sep ∈ v.data then ⟨((v.data.reverse.dropWhile (· ≠ sep)).drop 1).reverse⟩ else v

/-! ## UTF-8 -/

/-- `s.encode('utf-8')`. -/
def encodeUtf8 (s : String) : List UInt8 := s.toUTF8.data.toList

theorem encodeUtf8_eq (s : String) : encodeUtf8 s = s.data.flatMap String.utf8EncodeChar := rfl

/-- How many bytes the sequence a leading byte opens has; `0` for a byte that cannot lead. -/
def utf8SeqLength (b : UInt8) : Nat :=
  if b < 0x80 then 1
  else if b &&& 0xE0 = 0xC0 then 2
  else if b &&& 0xF0 = 0xE0 then 3
  else if b &&& 0xF8 = 0xF0 then 4
  else 0

/-- The payload bits of a leading byte followed by `k` continuation bytes. -/
def utf8LeadMask : Nat → UInt8
  | 0 => 0x7F
  | 1 => 0x1F
  | 2 => 0x0F
  | _ => 0x07

/-- The code point a sequence spells: the leading byte's payload bits, then six bits from each
continuation byte. -/
def utf8CodePoint : List UInt8 → Nat
  | [] => 0
  | b :: bs => bs.foldl (fun acc c => acc * 64 + (c &&& 0x3F).toNat) (b &&& utf8LeadMask bs.length).toNat

/-- Strict UTF-8 decoding of at most `fuel` characters; `none` on an invalid sequence. -/
def decodeUtf8Aux : Nat → List UInt8 → Option (List Char)
  | _, [] => some []
  | 0, _ :: _ => none
  | fuel + 1, b :: bs =>
    let seq := (b :: bs).take (utf8SeqLength b)
    let c := Char.ofNat (utf8CodePoint seq)
    if String.utf8EncodeChar c = seq then
      (c :: ·) <$> decodeUtf8Aux fuel ((b :: bs).drop (utf8SeqLength b))
    else none

/-- `b.decode('utf-8')`; `none` is `UnicodeDecodeError`.  Every character takes at least a
byte, so the length of `b` is fuel enough. -/
def decodeUtf8 (b : List UInt8) : Option String := (decodeUtf8Aux b.length b).map String.mk

private theorem flatMap_of_decodeUtf8Aux :
    ∀ {fuel : Nat} {b : List UInt8} {cs : List Char},
      decodeUtf8Aux fuel b = some cs → cs.flatMap String.utf8EncodeChar = b
  | _, [], cs, h => by simp only [decodeUtf8Aux, Option.some.injEq] at h; subst h; rfl
  | 0, _ :: _, _, h => by simp [decodeUtf8Aux] at h
  | fuel + 1, b :: bs, cs, h => by
    simp only [decodeUtf8Aux] at h
    split at h
    · rename_i henc
      obtain ⟨cs', hcs', rfl⟩ := Option.map_eq_some'.1 h
      rw [List.flatMap_cons, flatMap_of_decodeUtf8Aux hcs', henc, List.take_append_drop]
    · cases h

/-- What the strict decoder reads back re-encodes to the same bytes. -/
theorem encodeUtf8_of_decodeUtf8 {b : List UInt8} {s : String} (h : decodeUtf8 b = some s) :
    encodeUtf8 s = b := by
  obtain ⟨cs, hcs, rfl⟩ := Option.map_eq_some'.1 h
  exact flatMap_of_decodeUtf8Aux hcs

example : decodeUtf8 [0x61, 0xC3, 0xA9] = some "aé" := by decide
example : decodeUtf8 [0xC0, 0x80] = none := by decide
example : decodeUtf8 [0xED, 0xA0, 0x80] = none := by decide

/-! ## Requests: str with lone surrogates -/

/-- A Python `str`, as its code points.  Unlike a Lean `String` it can hold a lone surrogate
(U+D800 to U+DFFF): `pickle` carries one, and `str.encode('utf-8')` rejects it. -/
structure PyStr where
  codes : List Nat
  deriving DecidableEq

namespace PyStr

/-- The `str` of a Lean string: one without lone surrogates. -/
def ofString (s : String) : PyStr := ⟨s.data.map Char.toNat⟩

instance : Coe String PyStr := ⟨ofString⟩

theorem toNat_injective : Function.Injective Char.toNat :=
  fun _ _ h => Char.ext (UInt32.toNat.inj h)

@[simp] theorem ofString_inj {a b : String} : ofString a = ofString b ↔ a = b :=
  ⟨fun h => String.ext (List.map_injective_iff.2 toNat_injective (congrArg codes h)),
    congrArg ofString⟩

/-- `s.startswith(p)`. -/
def startswith (s p : PyStr) : Bool := p.codes.isPrefixOf s.codes

/-- `s.split(sep)` for a one-character separator. -/
def splitSep (s : PyStr) (sep : Char) : List PyStr := (s.codes.splitOn sep.toNat).map mk

/-- The Lean string with the same code points; `none` when `s` holds a lone surrogate. -/
def toString? (s : PyStr) : Option String :=
  String.mk <$> s.codes.mapM fun c => if c.isValidChar then some (Char.ofNat c) else none

/-- `s.encode('utf-8')`; `none` is the `UnicodeEncodeError` a lone surrogate raises. -/
def encodeUtf8 (s : PyStr) : Option (List UInt8) := s.toString?.map HtexInterchange.encodeUtf8

theorem toString?_ofString (s : String) : (ofString s).toString? = some s := by
  suffices h : ∀ l : List Char,
      (l.map Char.toNat).mapM (fun c => if c.isValidChar then some (Char.ofNat c) else none) =
        some l by
    rw [toString?, ofString, h]
    rfl
  intro l
  induction l with
  | nil => rfl
  | cons c l ih =>
    have hc : c.toNat.isValidChar := c.valid
    rw [List.map_cons, List.mapM_cons, ih, if_pos hc, Char.ofNat_toNat]
    rfl

theorem encodeUtf8_ofString (s : String) :
    (ofString s).encodeUtf8 = some (HtexInterchange.encodeUtf8 s) := by
  simp [encodeUtf8, toString?_ofString]

theorem startswith_append (p s : String) : startswith (ofString (p ++ s)) (ofString p) = true := by
  simp [startswith, ofString]

/-- Splitting `p ++ sep ++ s` on `sep`, when neither side contains `sep`, gives the two sides. -/
theorem splitSep_append {p s : String} {sep : Char} (hp : sep ∉ p.data) (hs : sep ∉ s.data) :
    splitSep (ofString (p ++ ⟨[sep]⟩ ++ s)) sep = [ofString p, ofString s] := by
  have hsep : ∀ {l : List Char}, sep ∉ l → ∀ x ∈ l.map Char.toNat, ¬ (x == sep.toNat) = true :=
    fun hl x hx h => by
      obtain ⟨c, hc, rfl⟩ := List.mem_map.1 hx
      exact hl (toNat_injective (beq_iff_eq.1 h) ▸ hc)
  simp only [splitSep, ofString, List.splitOn, String.data_append, List.map_append,
    List.append_assoc, List.map_cons, List.map_nil, List.singleton_append]
  rw [List.splitOnP_first _ _ (hsep hp) _ (by simp), List.splitOnP_eq_single _ _ (hsep hs)]
  rfl

end PyStr

example : (PyStr.mk [0x61, 0xDC80]).encodeUtf8 = none := by decide
example : (PyStr.ofString "aé").encodeUtf8 = some [0x61, 0xC3, 0xA9] := by decide

end HtexInterchange
