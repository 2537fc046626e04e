import CellRecipe.Text.Numeral

/-!
# MD5

The 128-bit message digest of RFC 1321, as 32 lower case hexadecimal digits. It names directories
here and protects nothing.

A message is filled up with one set bit, zero bits and its length to a multiple of 64 bytes, and
each block of 16 words stirs a state of four words in 64 steps.

## Main definitions

* `Md5.digits`: the digest of a list of bytes.

## Main results

* `Md5.length_digits`, `Md5.mem_digits`: a digest has 32 lower case hexadecimal digits.
-/

namespace CellRecipe.Md5

/-- The four words of the state. -/
structure State where
  a : UInt32
  b : UInt32
  c : UInt32
  d : UInt32
  deriving DecidableEq, Inhabited

/-- The state before the first block. -/
def start : State := ⟨0x67452301, 0xefcdab89, 0x98badcfe, 0x10325476⟩

/-! ## Filling up -/

/-- The bytes of a number, lowest first. -/
def lowBytes : Nat → Nat → List UInt8
  | 0, _ => []
  | count + 1, n => UInt8.ofNat (n % 256) :: lowBytes count (n / 256)

/-- The bytes with the set bit, the zeros and the length in bits after them. -/
def padded (bytes : List UInt8) : List UInt8 :=
  let n := bytes.length
  bytes ++ 0x80 :: List.replicate ((119 - n % 64) % 64) 0 ++ lowBytes 8 (8 * n)

/-- The words that four bytes each make, lowest byte first. -/
def words (found : Array UInt32) : List UInt8 → Array UInt32
  | x :: y :: z :: w :: rest =>
    words (found.push (x.toUInt32 ||| (y.toUInt32 <<< 8) ||| (z.toUInt32 <<< 16)
      ||| (w.toUInt32 <<< 24))) rest
  | _ => found

/-! ## Stirring -/

/-- The constants of the 64 steps: the whole parts of `2 ^ 32 * |sin (i + 1)|`. -/
def constants : Array UInt32 := #[
  0xd76aa478, 0xe8c7b756, 0x242070db, 0xc1bdceee, 0xf57c0faf, 0x4787c62a, 0xa8304613, 0xfd469501,
  0x698098d8, 0x8b44f7af, 0xffff5bb1, 0x895cd7be, 0x6b901122, 0xfd987193, 0xa679438e, 0x49b40821,
  0xf61e2562, 0xc040b340, 0x265e5a51, 0xe9b6c7aa, 0xd62f105d, 0x02441453, 0xd8a1e681, 0xe7d3fbc8,
  0x21e1cde6, 0xc33707d6, 0xf4d50d87, 0x455a14ed, 0xa9e3e905, 0xfcefa3f8, 0x676f02d9, 0x8d2a4c8a,
  0xfffa3942, 0x8771f681, 0x6d9d6122, 0xfde5380c, 0xa4beea44, 0x4bdecfa9, 0xf6bb4b60, 0xbebfbc70,
  0x289b7ec6, 0xeaa127fa, 0xd4ef3085, 0x04881d05, 0xd9d4d039, 0xe6db99e5, 0x1fa27cf8, 0xc4ac5665,
  0xf4292244, 0x432aff97, 0xab9423a7, 0xfc93a039, 0x655b59c3, 0x8f0ccc92, 0xffeff47d, 0x85845dd1,
  0x6fa87e4f, 0xfe2ce6e0, 0xa3014314, 0x4e0811a1, 0xf7537e82, 0xbd3af235, 0x2ad7d2bb, 0xeb86d391]

/-- The turns of the four steps that repeat within each round. -/
def turns : Array UInt32 := #[7, 12, 17, 22, 5, 9, 14, 20, 4, 11, 16, 23, 6, 10, 15, 21]

/-- A word turned to the left. -/
def turnLeft (x n : UInt32) : UInt32 := (x <<< n) ||| (x >>> (32 - n))

/-- What a round mixes of three words. -/
def mix (round : Nat) (b c d : UInt32) : UInt32 :=
  match round with
  | 0 => (b &&& c) ||| (~~~b &&& d)
  | 1 => (d &&& b) ||| (~~~d &&& c)
  | 2 => b ^^^ c ^^^ d
  | _ => c ^^^ (b ||| ~~~d)

/-- Which word of the block a step takes. -/
def wordIndex (i : Nat) : Nat :=
  match i / 16 with
  | 0 => i
  | 1 => (5 * i + 1) % 16
  | 2 => (3 * i + 5) % 16
  | _ => (7 * i) % 16

/-- One step over a block that begins at `offset`. -/
def step (message : Array UInt32) (offset : Nat) (s : State) (i : Nat) : State :=
  let word := message.getD (offset + wordIndex i) 0
  let turn := turns.getD (4 * (i / 16) + i % 4) 0
  let sum := s.a + mix (i / 16) s.b s.c s.d + constants.getD i 0 + word
  ⟨s.d, s.b + turnLeft sum turn, s.b, s.c⟩

/-- The state after the block that begins at `offset`. -/
def block (message : Array UInt32) (s : State) (offset : Nat) : State :=
  let t := (List.range 64).foldl (step message offset) s
  ⟨s.a + t.a, s.b + t.b, s.c + t.c, s.d + t.d⟩

/-- The state after all blocks. -/
def final (message : Array UInt32) : State :=
  (List.range (message.size / 16)).foldl (fun s k => block message s (16 * k)) start

/-! ## The digest -/

/-- The eight digits of a word, its lowest byte first. -/
def wordDigits (w : UInt32) : List Char :=
  (lowBytes 4 w.toNat).flatMap fun x => [Text.hexDigit (x.toNat / 16), Text.hexDigit x.toNat]

/-- The digest of the bytes. -/
def digits (bytes : List UInt8) : String :=
  let s := final (words #[] (padded bytes))
  String.ofList (wordDigits s.a ++ wordDigits s.b ++ wordDigits s.c ++ wordDigits s.d)

theorem toList_digits (bytes : List UInt8) :
    ∃ a b c d : UInt32,
      (digits bytes).toList = wordDigits a ++ wordDigits b ++ wordDigits c ++ wordDigits d :=
  ⟨_, _, _, _, String.toList_ofList⟩

theorem length_lowBytes (count n : Nat) : (lowBytes count n).length = count := by
  induction count generalizing n with
  | zero => rfl
  | succ count ih => rw [lowBytes, List.length_cons, ih]

theorem length_wordDigits (w : UInt32) : (wordDigits w).length = 8 := by
  have hpairs : ∀ xs : List UInt8,
      (xs.flatMap fun x => [Text.hexDigit (x.toNat / 16), Text.hexDigit x.toNat]).length
        = 2 * xs.length := by
    intro xs
    induction xs with
    | nil => rfl
    | cons x rest ih =>
        rw [List.flatMap_cons, List.length_append, ih, List.length_cons]
        simp only [List.length_cons, List.length_nil]
        omega
  rw [wordDigits, hpairs, length_lowBytes]

theorem length_digits (bytes : List UInt8) : (digits bytes).toList.length = 32 := by
  obtain ⟨a, b, c, d, h⟩ := toList_digits bytes
  simp only [h, List.length_append, length_wordDigits]

theorem mem_wordDigits {w : UInt32} {c : Char} (h : c ∈ wordDigits w) :
    c ∈ "0123456789abcdef".toList := by
  rw [wordDigits, List.mem_flatMap] at h
  obtain ⟨x, -, hc⟩ := h
  simp only [List.mem_cons, List.not_mem_nil, or_false] at hc
  rcases hc with rfl | rfl
  · exact Text.hexDigit_mem _
  · exact Text.hexDigit_mem _

theorem mem_digits {bytes : List UInt8} {c : Char} (h : c ∈ (digits bytes).toList) :
    c ∈ "0123456789abcdef".toList := by
  obtain ⟨a, b, d, e, hdigits⟩ := toList_digits bytes
  rw [hdigits] at h
  simp only [List.mem_append] at h
  rcases h with ((h | h) | h) | h <;> exact mem_wordDigits h

end CellRecipe.Md5
