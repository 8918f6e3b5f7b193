import DongloraClient.Foundation.Wire

/-! Consistent overhead byte stuffing: the block format, and a codec as its users
see it, with the laws they rely on. -/

namespace Cobs
open Wire

/-- Encoding with the open block read so far. A block closes at a zero, or when
it is full; after a full block nothing follows an input that ends there. -/
def encodeFrom (block : Bytes) (finalZero : Bool) : Bytes → Bytes
  | [] => if block ≠ [] ∨ finalZero then UInt8.ofNat (block.length + 1) :: block else []
  | byte :: rest =>
    if byte = 0 then UInt8.ofNat (block.length + 1) :: block ++ encodeFrom [] true rest
    else if block.length = 0xFD then 0xFF :: (block ++ [byte]) ++ encodeFrom [] false rest
    else encodeFrom (block ++ [byte]) finalZero rest

def encode (data : Bytes) : Bytes := encodeFrom [] true data

/-- Decoding block by block, at most `fuel` of them. -/
def decodeBlocks : Nat → Bytes → Except String Bytes
  | 0, _ | _, [] => .ok []
  | fuel + 1, code :: rest =>
    let size := code.toNat - 1
    if code = 0 ∨ 0 ∈ rest.take size then .error "zero byte found in input"
    else if rest.length < size then .error "not enough input bytes for length code"
    else if rest.drop size = [] then .ok (rest.take size)
    else return rest.take size ++ (if code.toNat < 0xFF then [0] else []) ++ (← decodeBlocks fuel (rest.drop size))

/-- Every block takes at least one byte, so the length of the input is fuel enough. -/
def decode (data : Bytes) : Except String Bytes := decodeBlocks data.length data

theorem encodeFrom_nonzero {block : Bytes} (clean : 0 ∉ block) (short : block.length ≤ 0xFD)
    (finalZero : Bool) (data : Bytes) : 0 ∉ encodeFrom block finalZero data := by
  have code : ∀ size : Nat, size ≤ 0xFD → (0 : UInt8) ≠ UInt8.ofNat (size + 1) := by
    intro size bound same
    have value := congrArg UInt8.toNat same
    simp only [UInt8.toNat_ofNat'] at value
    have : (0 : UInt8).toNat = 0 := rfl
    omega
  induction data generalizing block finalZero with
  | nil =>
    simp only [encodeFrom]
    split
    · exact List.not_mem_cons_of_ne_of_not_mem (code _ short) clean
    · exact List.not_mem_nil
  | cons byte rest ih =>
    simp only [encodeFrom]
    split
    · simp only [List.cons_append, List.mem_cons, List.mem_append, not_or]
      exact ⟨code _ short, clean, ih List.not_mem_nil (by simp) true⟩
    next nonzero =>
      have extended : 0 ∉ block ++ [byte] := by simp [clean, Ne.symm nonzero]
      split
      · simp only [List.cons_append, List.mem_cons, not_or, List.mem_append (s := block ++ [byte])]
        exact ⟨by decide, extended, ih List.not_mem_nil (by simp) false⟩
      next open_ => exact ih extended (by simp; omega) finalZero

theorem encodeFrom_nonempty (block : Bytes) (finalZero : Bool) (data : Bytes)
    (something : block ≠ [] ∨ finalZero = true ∨ data ≠ []) : encodeFrom block finalZero data ≠ [] := by
  induction data generalizing block finalZero with
  | nil => simp_all [encodeFrom]
  | cons byte rest ih =>
    simp only [encodeFrom]
    split
    · simp
    · split
      · simp
      · exact ih _ _ (Or.inl (by simp))

/-- A clean block followed by its continuation decodes to the block, the zero it
stands for, and the decoded continuation. -/
theorem decodeBlocks_block {fuel : Nat} {code : UInt8} {block tail : Bytes} (clean : 0 ∉ block)
    (size : code.toNat = block.length + 1) (continues : tail ≠ []) {decoded : Bytes}
    (rest : decodeBlocks fuel tail = .ok decoded) :
    decodeBlocks (fuel + 1) (code :: (block ++ tail)) =
      .ok (block ++ (if code.toNat < 0xFF then [0] else []) ++ decoded) := by
  have nonzero : code ≠ 0 := by
    rintro rfl
    have : (0 : UInt8).toNat = 0 := rfl
    omega
  simp [decodeBlocks, size, clean, nonzero, continues, rest]

theorem decodeBlocks_last {fuel : Nat} {code : UInt8} {block : Bytes} (clean : 0 ∉ block)
    (size : code.toNat = block.length + 1) : decodeBlocks (fuel + 1) (code :: block) = .ok block := by
  have nonzero : code ≠ 0 := by
    rintro rfl
    have : (0 : UInt8).toNat = 0 := rfl
    omega
  simp [decodeBlocks, size, clean, nonzero]

private theorem code_size {size : Nat} (short : size ≤ 0xFD) :
    (UInt8.ofNat (size + 1)).toNat = size + 1 := by
  simp only [UInt8.toNat_ofNat']
  omega

theorem decodeBlocks_encodeFrom {block : Bytes} (clean : 0 ∉ block) (short : block.length ≤ 0xFD)
    (finalZero : Bool) (data : Bytes) (something : block ≠ [] ∨ finalZero = true ∨ data ≠ []) {fuel : Nat}
    (enough : (encodeFrom block finalZero data).length ≤ fuel) :
    decodeBlocks fuel (encodeFrom block finalZero data) = .ok (block ++ data) := by
  induction data generalizing block finalZero fuel with
  | nil =>
    have closing : block ≠ [] ∨ finalZero = true := by simpa using something
    simp only [encodeFrom, closing, if_true, List.length_cons] at enough ⊢
    obtain ⟨fuel, rfl⟩ := Nat.exists_eq_succ_of_ne_zero (by omega : fuel ≠ 0)
    rw [decodeBlocks_last clean (code_size short), List.append_nil]
  | cons byte rest ih =>
    simp only [encodeFrom] at enough ⊢
    split
    next zero =>
      simp only [zero, if_true, List.cons_append, List.length_cons, List.length_append] at enough
      obtain ⟨fuel, rfl⟩ := Nat.exists_eq_succ_of_ne_zero (by omega : fuel ≠ 0)
      have tail : decodeBlocks fuel (encodeFrom [] true rest) = .ok rest :=
        ih List.not_mem_nil (by simp) true (by simp) (by omega)
      have partial_ : block.length + 1 < 0xFF := by omega
      rw [List.cons_append, decodeBlocks_block clean (code_size short)
        (encodeFrom_nonempty [] true rest (by simp)) tail, code_size short, if_pos partial_]
      simp [zero]
    next nonzero =>
      have extended : 0 ∉ block ++ [byte] := by simp [clean, Ne.symm nonzero]
      simp only [nonzero, if_false] at enough
      split
      next full =>
        simp only [full, if_true, List.cons_append, List.length_cons, List.length_append] at enough
        obtain ⟨fuel, rfl⟩ := Nat.exists_eq_succ_of_ne_zero (by omega : fuel ≠ 0)
        have size : (0xFF : UInt8).toNat = (block ++ [byte]).length + 1 := by simp [full]
        by_cases ends : rest = []
        · subst rest
          simp only [encodeFrom, ne_eq, not_true_eq_false, Bool.false_eq_true, or_self, if_false, List.append_nil]
          rw [decodeBlocks_last extended size]
        · have tail : decodeBlocks fuel (encodeFrom [] false rest) = .ok rest :=
            ih List.not_mem_nil (by simp) false (by simp [ends]) (by omega)
          rw [List.cons_append, decodeBlocks_block extended size
            (encodeFrom_nonempty [] false rest (by simp [ends])) tail]
          simp
      next notFull =>
        simp only [notFull, if_false] at enough
        rw [ih extended (by simp; omega) finalZero (by simp) enough]
        simp

theorem decode_encode (data : Bytes) : decode (encode data) = .ok data :=
  decodeBlocks_encodeFrom List.not_mem_nil (by simp) true data (by simp) (Nat.le_refl _)

/-- A string of blocks with what it decodes to. The index counts the full blocks
that something follows: they are the only ones that stand for no zero. -/
inductive Blocks : Nat → Bytes → Bytes → Prop where
  | last {code : UInt8} {block : Bytes} : code.toNat = block.length + 1 → 0 ∉ block → Blocks 0 (code :: block) block
  | zero {count : Nat} {code : UInt8} {block rest data : Bytes} : code.toNat = block.length + 1 → 0 ∉ block →
      code.toNat < 0xFF → Blocks count rest data → Blocks count (code :: (block ++ rest)) (block ++ 0 :: data)
  | full {count : Nat} {code : UInt8} {block rest data : Bytes} : code.toNat = block.length + 1 → 0 ∉ block →
      code.toNat = 0xFF → Blocks count rest data → Blocks (count + 1) (code :: (block ++ rest)) (block ++ data)

theorem decodeBlocks_blocks {fuel : Nat} {encoded data : Bytes} (enough : encoded.length ≤ fuel)
    (nonempty : encoded ≠ []) (decoded : decodeBlocks fuel encoded = .ok data) :
    ∃ count, Blocks count encoded data := by
  induction fuel generalizing encoded data with
  | zero => exact absurd (List.eq_nil_of_length_eq_zero (by omega)) nonempty
  | succ fuel ih =>
    obtain ⟨code, rest, rfl⟩ := List.exists_cons_of_ne_nil nonempty
    simp only [decodeBlocks] at decoded
    split at decoded
    next => cases decoded
    next clean =>
      obtain ⟨nonzero, clean⟩ := not_or.mp clean
      split at decoded
      next => cases decoded
      next covered =>
        have size : (rest.take (code.toNat - 1)).length = code.toNat - 1 :=
          List.length_take_of_le (Nat.le_of_not_lt covered)
        have positive : code.toNat ≠ 0 := fun zero => nonzero (UInt8.toNat_inj.mp zero)
        have measured : code.toNat = (rest.take (code.toNat - 1)).length + 1 := by omega
        split at decoded
        next ends =>
          cases decoded
          rw [List.drop_eq_nil_iff] at ends
          rw [List.take_of_length_le ends] at measured clean ⊢
          exact ⟨0, .last measured clean⟩
        next continues =>
          have shorter : (rest.drop (code.toNat - 1)).length ≤ fuel := by
            simp only [List.length_cons] at enough
            simp only [List.length_drop]
            omega
          cases tail : decodeBlocks fuel (rest.drop (code.toNat - 1)) with
          | error text =>
            rw [tail] at decoded
            cases decoded
          | ok out =>
            rw [tail] at decoded
            cases decoded
            obtain ⟨count, blocks⟩ := ih shorter continues tail
            rw [← List.take_append_drop (code.toNat - 1) rest]
            by_cases open_ : code.toNat < 0xFF
            · refine ⟨count, ?_⟩
              simpa [open_] using Blocks.zero measured clean open_ blocks
            · have full : code.toNat = 0xFF := by have := code.toNat_lt; omega
              refine ⟨count + 1, ?_⟩
              simpa [open_] using Blocks.full measured clean full blocks

/-- Each block costs the byte of its code, and all but the full ones and the last
give it back as a zero. -/
theorem Blocks.length {count : Nat} {encoded data : Bytes} (blocks : Blocks count encoded data) :
    encoded.length = data.length + 1 + count ∧ 255 * count + 1 ≤ encoded.length := by
  induction blocks with
  | last => simp
  | zero _ _ _ _ ih =>
    simp only [List.length_cons, List.length_append]
    omega
  | full size _ full _ ih =>
    simp only [List.length_cons, List.length_append]
    omega

theorem Blocks.empty {encoded : Bytes} (blocks : Blocks 0 encoded []) : encoded = [1] := by
  generalize same : ([] : Bytes) = data at blocks
  cases blocks with
  | last size =>
    subst same
    exact congrArg (fun code => [code]) (UInt8.toNat_inj.mp size)
  | zero => simp at same

private theorem zero_split {first second rest tail : Bytes} (clean : 0 ∉ first) (other : 0 ∉ second)
    (same : first ++ 0 :: rest = second ++ 0 :: tail) : first = second ∧ rest = tail := by
  induction first generalizing second with
  | nil =>
    cases second with
    | nil => exact ⟨rfl, (List.cons.inj same).2⟩
    | cons byte second => exact absurd (by rw [(List.cons.inj same).1]; exact List.mem_cons_self) other
  | cons byte first ih =>
    cases second with
    | nil => exact absurd (by rw [← (List.cons.inj same).1]; exact List.mem_cons_self) clean
    | cons head second =>
      obtain ⟨rfl, remaining⟩ := List.cons.inj same
      obtain ⟨rfl, rfl⟩ := ih (List.not_mem_of_not_mem_cons clean) (List.not_mem_of_not_mem_cons other) remaining
      exact ⟨rfl, rfl⟩

/-- Two strings of blocks for the same data, one with a full block that something
follows and one with none: the first is the second with an empty block behind it. -/
theorem Blocks.extra {encoded other data : Bytes} (blocks : Blocks 1 encoded data) (plain : Blocks 0 other data) :
    encoded = other ++ [1] ∧ ∃ byte ∈ other, byte.toNat = 0xFF := by
  generalize same : 1 = count at blocks
  induction blocks generalizing other with
  | last => cases same
  | @zero count code block rest data size clean _ _ ih =>
    subst same
    generalize whole : block ++ 0 :: data = decoded at plain
    cases plain with
    | last _ nonzero => exact absurd (by rw [← whole]; simp) nonzero
    | @zero _ code' block' rest' data' size' clean' _ plain =>
      obtain ⟨rfl, rfl⟩ := zero_split clean clean' whole
      obtain rfl : code = code' := UInt8.toNat_inj.mp (size.trans size'.symm)
      obtain ⟨rfl, byte, member, full⟩ := ih plain rfl
      exact ⟨by simp, byte, by simp [member], full⟩
  | @full count code block rest data size clean full remaining ih =>
    obtain rfl : 0 = count := by omega
    generalize whole : block ++ data = decoded at plain
    cases plain with
    | @last code' _ size' nonzero =>
      have nothing : data = [] := by
        have := code'.toNat_lt
        have length := congrArg List.length whole
        simp only [List.length_append] at length
        exact List.eq_nil_of_length_eq_zero (by omega)
      subst nothing
      rw [List.append_nil] at whole
      subst whole
      obtain rfl : code = code' := UInt8.toNat_inj.mp (size.trans size'.symm)
      rw [remaining.empty]
      exact ⟨rfl, code, List.mem_cons_self, full⟩
    | @zero _ code' block' rest' data' size' clean' notFull plain =>
      -- The zero falls inside the full block.
      rcases List.append_eq_append_iff.mp whole.symm with ⟨extra, inside, zero⟩ | ⟨extra, inside, _⟩
      · cases extra with
        | nil =>
          have length := congrArg List.length inside
          simp only [List.length_append, List.length_nil] at length
          omega
        | cons head extra =>
          obtain ⟨rfl, _⟩ := List.cons.inj zero
          exact absurd (by simp [inside]) clean
      · have length := congrArg List.length inside
        simp only [List.length_append] at length
        omega

private theorem constant_of_shift {items : Bytes} {head last : UInt8} (same : head :: items = items ++ [last]) :
    ∀ item ∈ head :: items, item = last := by
  induction items generalizing head with
  | nil => simpa using same
  | cons next items ih =>
    obtain ⟨rfl, remaining⟩ := List.cons.inj same
    have later := ih remaining
    intro item member
    rcases List.mem_cons.mp member with rfl | member
    · exact later _ List.mem_cons_self
    · exact later item member

/-- What is left of an encoding after its first bytes does not decode to the same
data, as long as the data is too short for a second full block. -/
theorem suffix_differs {encoded suffix data : Bytes} (short : data.length < 508)
    (decoded : decode encoded = .ok data) (again : decode suffix = .ok data) (nonempty : suffix ≠ [])
    (cut : suffix <:+ encoded) : suffix = encoded := by
  have whole : encoded ≠ [] := fun empty => nonempty (List.suffix_nil.mp (empty ▸ cut))
  obtain ⟨count, blocks⟩ := decodeBlocks_blocks (Nat.le_refl _) whole decoded
  obtain ⟨other, plain⟩ := decodeBlocks_blocks (Nat.le_refl _) nonempty again
  obtain ⟨size, fits⟩ := blocks.length
  obtain ⟨size', _⟩ := plain.length
  apply cut.eq_of_length_le
  by_contra shorter
  obtain ⟨rfl, rfl⟩ : count = 1 ∧ other = 0 := by omega
  obtain ⟨rfl, byte, member, full⟩ := blocks.extra plain
  -- One byte is cut off, and the rest is its own shift.
  obtain ⟨before, append⟩ := cut
  obtain ⟨head, rfl⟩ : ∃ head, before = [head] := by
    have length := congrArg List.length append
    simp only [List.length_append, List.length_singleton] at length
    exact List.length_eq_one_iff.mp (by omega)
  have one := constant_of_shift append byte (List.mem_cons_of_mem _ member)
  rw [one] at full
  cases full

/-- An encoding takes at most one byte more than the data for each full block, and one. -/
theorem Blocks.overhead {count : Nat} {encoded data : Bytes} (blocks : Blocks count encoded data) :
    encoded.length ≤ data.length + data.length / 254 + 1 := by
  obtain ⟨size, fits⟩ := blocks.length
  have full : count ≤ data.length / 254 := (Nat.le_div_iff_mul_le (by decide)).mpr (by omega)
  omega

/-- An encoder with its decoder, whose only failure is a decode error carrying a
text. -/
structure Codec where
  encode : Bytes → Bytes
  decode : Bytes → Except String Bytes
  decode_encode : ∀ data, decode (encode data) = .ok data
  encode_nonzero : ∀ data, 0 ∉ encode data
  encode_length : ∀ data, (encode data).length ≤ data.length + data.length / 254 + 1

/-- A codec that decodes nothing otherwise than the standard algorithm does. -/
structure StandardCodec extends Codec where
  decode_blocks : ∀ encoded data, decode encoded = .ok data → Cobs.decode encoded = .ok data

theorem StandardCodec.suffix_differs (codec : StandardCodec) {suffix data : Bytes} (short : data.length < 508)
    (again : codec.decode suffix = .ok data) (nonempty : suffix ≠ []) (cut : suffix <:+ codec.encode data) :
    suffix = codec.encode data :=
  Cobs.suffix_differs short (codec.decode_blocks _ _ (codec.decode_encode data)) (codec.decode_blocks _ _ again)
    nonempty cut

theorem StandardCodec.encode_nonempty (codec : StandardCodec) {data : Bytes} (nonempty : data ≠ []) :
    codec.encode data ≠ [] := by
  intro empty
  have decoded := codec.decode_blocks _ _ (codec.decode_encode data)
  rw [empty] at decoded
  exact nonempty (Except.ok.inj decoded).symm

theorem encode_length (data : Bytes) : (encode data).length ≤ data.length + data.length / 254 + 1 := by
  have nonempty : encode data ≠ [] := encodeFrom_nonempty [] true data (by simp)
  obtain ⟨count, blocks⟩ := decodeBlocks_blocks (Nat.le_refl _) nonempty (decode_encode data)
  exact blocks.overhead

theorem encode_longer (data : Bytes) : data.length < (encode data).length := by
  have nonempty : encode data ≠ [] := encodeFrom_nonempty [] true data (by simp)
  obtain ⟨count, blocks⟩ := decodeBlocks_blocks (Nat.le_refl _) nonempty (decode_encode data)
  rw [blocks.length.1]
  omega

/-- The standard algorithm as a codec. -/
def standard : Codec where
  encode := encode
  decode := decode
  decode_encode := decode_encode
  encode_nonzero := encodeFrom_nonzero List.not_mem_nil (by simp) true
  encode_length := encode_length

def standardCodec : StandardCodec where
  toCodec := standard
  decode_blocks _ _ decoded := decoded

end Cobs
