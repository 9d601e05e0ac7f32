import FlowOffload.Foundation.Sha2
import FlowOffload.Model.Digest

/-!
# The incremental digest

Whatever the pieces are in which a message is fed, the hasher holds the blocks
of it worked off and the rest as pending, and finishing gives the digest of
the standard.
-/

namespace FlowOffload

open Foundation

namespace Sha256

/-! ## Words -/

theorem toBitVec_rotr (value amount : UInt32) (hlt : amount.toNat < 32)
    (hpos : 0 < amount.toNat) :
    (rotr value amount).toBitVec =
      value.toBitVec.rotateRight amount.toNat := by
  have hrest : (32 - amount).toNat = 32 - amount.toNat :=
    UInt32.toNat_sub_of_le 32 amount (UInt32.le_iff_toNat_le.mpr hlt.le)
  -- an amount of the source is its own remainder modulo the word size
  have hamount : ∀ shift : UInt32, shift.toNat < 32 →
      (shift.toBitVec % 32).toNat = shift.toNat := by
    intro shift hshift
    exact Nat.mod_eq_of_lt hshift
  rw [rotr, UInt32.toBitVec_or, UInt32.toBitVec_shiftRight,
    UInt32.toBitVec_shiftLeft, BitVec.rotateRight_def, Nat.mod_eq_of_lt hlt,
    BitVec.ushiftRight_eq', BitVec.shiftLeft_eq', hamount amount hlt,
    hamount (32 - amount) (by omega), hrest]

theorem toBitVec_smallSigma0 (x : UInt32) :
    (rotr x 7 ^^^ rotr x 18 ^^^ (x >>> 3)).toBitVec =
      Sha2.smallSigma0 x.toBitVec := by
  rw [UInt32.toBitVec_xor, UInt32.toBitVec_xor,
    toBitVec_rotr x 7 (by decide) (by decide),
    toBitVec_rotr x 18 (by decide) (by decide)]
  rfl

theorem toBitVec_smallSigma1 (x : UInt32) :
    (rotr x 17 ^^^ rotr x 19 ^^^ (x >>> 10)).toBitVec =
      Sha2.smallSigma1 x.toBitVec := by
  rw [UInt32.toBitVec_xor, UInt32.toBitVec_xor,
    toBitVec_rotr x 17 (by decide) (by decide),
    toBitVec_rotr x 19 (by decide) (by decide)]
  rfl

theorem toBitVec_bigSigma0 (x : UInt32) :
    (rotr x 2 ^^^ rotr x 13 ^^^ rotr x 22).toBitVec =
      Sha2.bigSigma0 x.toBitVec := by
  rw [UInt32.toBitVec_xor, UInt32.toBitVec_xor,
    toBitVec_rotr x 2 (by decide) (by decide),
    toBitVec_rotr x 13 (by decide) (by decide),
    toBitVec_rotr x 22 (by decide) (by decide)]
  rfl

theorem toBitVec_bigSigma1 (x : UInt32) :
    (rotr x 6 ^^^ rotr x 11 ^^^ rotr x 25).toBitVec =
      Sha2.bigSigma1 x.toBitVec := by
  rw [UInt32.toBitVec_xor, UInt32.toBitVec_xor,
    toBitVec_rotr x 6 (by decide) (by decide),
    toBitVec_rotr x 11 (by decide) (by decide),
    toBitVec_rotr x 25 (by decide) (by decide)]
  rfl

theorem toBitVec_loadBe32 (p0 p1 p2 p3 : UInt8) :
    (loadBe32 p0 p1 p2 p3).toBitVec =
      BitVec.ofNat 32 (ofBigEndian [p0, p1, p2, p3]) := by
  have h0 := p0.toNat_lt
  have h1 := p1.toNat_lt
  have h2 := p2.toNat_lt
  have h3 := p3.toNat_lt
  have hvalue : ofBigEndian [p0, p1, p2, p3] =
      2 ^ 24 * p0.toNat + 2 ^ 16 * p1.toNat + 2 ^ 8 * p2.toNat + p3.toNat := by
    simp only [ofBigEndian, List.foldl_cons, List.foldl_nil]
    omega
  refine BitVec.eq_of_toNat_eq ?_
  have hshifted : ∀ (byte : UInt8) (shift : UInt32),
      byte.toNat * 2 ^ (shift.toNat % 32) < 2 ^ 32 →
      (byte.toUInt32 <<< shift).toNat =
        2 ^ (shift.toNat % 32) * byte.toNat := by
    intro byte shift hfits
    rw [UInt32.toNat_shiftLeft, UInt8.toNat_toUInt32, Nat.shiftLeft_eq,
      Nat.mod_eq_of_lt hfits, Nat.mul_comm]
  have hhigh : 2 ^ 24 * p0.toNat ||| 2 ^ 16 * p1.toNat =
      2 ^ 16 * (2 ^ 8 * p0.toNat + p1.toNat) := by
    rw [← Nat.two_pow_add_eq_or_of_lt (by omega)]
    omega
  have hmiddle : 2 ^ 16 * (2 ^ 8 * p0.toNat + p1.toNat) ||| 2 ^ 8 * p2.toNat =
      2 ^ 8 * (2 ^ 16 * p0.toNat + 2 ^ 8 * p1.toNat + p2.toNat) := by
    rw [← Nat.two_pow_add_eq_or_of_lt (by omega)]
    omega
  have h24 : UInt32.toNat 24 % 32 = 24 := rfl
  have h16 : UInt32.toNat 16 % 32 = 16 := rfl
  have h8 : UInt32.toNat 8 % 32 = 8 := rfl
  rw [UInt32.toNat_toBitVec, BitVec.toNat_ofNat, hvalue, loadBe32,
    UInt32.toNat_or, UInt32.toNat_or, UInt32.toNat_or,
    hshifted p0 24 (by rw [h24]; omega), hshifted p1 16 (by rw [h16]; omega),
    hshifted p2 8 (by rw [h8]; omega), UInt8.toNat_toUInt32, h24, h16, h8, hhigh,
    hmiddle, ← Nat.two_pow_add_eq_or_of_lt h3]
  omega

theorem storeBe32_eq (value : UInt32) :
    storeBe32 value = bigEndian 4 value.toNat := by
  have hbyte : ∀ shift : UInt32, (value >>> shift).toUInt8 =
      UInt8.ofNat (value.toNat / 2 ^ (shift.toNat % 32)) := by
    intro shift
    refine UInt8.toNat_inj.mp ?_
    rw [UInt32.toNat_toUInt8, UInt32.toNat_shiftRight, UInt8.toNat_ofNat',
      Nat.shiftRight_eq_div_pow]
  have hlast : value.toUInt8 = UInt8.ofNat value.toNat := by
    refine UInt8.toNat_inj.mp ?_
    rw [UInt32.toNat_toUInt8, UInt8.toNat_ofNat']
  simp only [storeBe32, bigEndian, hbyte, hlast, pow_zero, Nat.div_one]
  rfl

theorem lengthBytes_eq (value : UInt64) :
    lengthBytes value = bigEndian 8 value.toNat := by
  have hbyte : ∀ shift : UInt64, (value >>> shift).toUInt8 =
      UInt8.ofNat (value.toNat / 2 ^ (shift.toNat % 64)) := by
    intro shift
    refine UInt8.toNat_inj.mp ?_
    rw [UInt64.toNat_toUInt8, UInt64.toNat_shiftRight, UInt8.toNat_ofNat',
      Nat.shiftRight_eq_div_pow]
  have hrange : List.range 8 = [0, 1, 2, 3, 4, 5, 6, 7] := rfl
  simp only [lengthBytes, bigEndian, hbyte, hrange, List.map_cons, List.map_nil]
  rfl

theorem constants_eq :
    kRoundConstants.map UInt32.toBitVec =
      (List.range' 0 64).map Sha2.roundConstant := by
  unfold Sha2.roundConstant
  rw [Sha2.primes_eq]
  decide +kernel

/-! ## One block -/

/-- The hash value in the eight words of the hasher. -/
def value (s : Sha256Words) : Sha2.HashValue where
  a := s.a.toBitVec
  b := s.b.toBitVec
  c := s.c.toBitVec
  d := s.d.toBitVec
  e := s.e.toBitVec
  f := s.f.toBitVec
  g := s.g.toBitVec
  h := s.h.toBitVec

theorem value_initial : value {} = Sha2.initialHash := by
  unfold Sha2.initialHash Sha2.initialWord
  rw [Sha2.primes_eq]
  decide +kernel

theorem value_round (s : Sha256Words) (constant word : UInt32) :
    value (round s constant word) =
      Sha2.round (value s) constant.toBitVec word.toBitVec := by
  simp only [value, round, UInt32.toBitVec_add, toBitVec_bigSigma0,
    toBitVec_bigSigma1]
  rfl

theorem loadWords_eq (block : List UInt8) (count : Nat)
    (h : block.length = 4 * count) :
    (loadWords block).map UInt32.toBitVec =
      (List.range count).map (Sha2.messageWord block) := by
  induction count generalizing block with
  | zero =>
      rw [List.length_eq_zero_iff.mp h]
      rfl
  | succ count ih =>
      match block, h with
      | p0 :: p1 :: p2 :: p3 :: rest, h =>
          have hrest : rest.length = 4 * count := by
            simp only [List.length_cons] at h
            omega
          rw [loadWords, List.map_cons, toBitVec_loadBe32, ih rest hrest,
            List.range_succ_eq_map, List.map_cons, List.map_map]
          rfl

/-- The extension by further words, from the sixteen in front of them. -/
theorem extendSchedule_eq (block : List UInt8) (count start : Nat)
    (window : List UInt32)
    (h : window.map UInt32.toBitVec =
      (List.range' start 16).map (Sha2.schedule block)) :
    (extendSchedule count window).map UInt32.toBitVec =
      (List.range' (start + 16) count).map (Sha2.schedule block) := by
  induction count generalizing start window with
  | zero => rfl
  | succ count ih =>
      have hword : ∀ index, index < 16 →
          (window.getD index 0).toBitVec = Sha2.schedule block (start + index) := by
        intro index hindex
        have hat := congrArg (fun words => words[index]?) h
        simp only [List.getElem?_map, List.getElem?_range' hindex,
          Option.map_some, Nat.one_mul] at hat
        obtain ⟨word, hsome, hvalue⟩ := Option.map_eq_some_iff.mp hat
        rw [List.getD_eq_getElem?_getD, hsome]
        exact hvalue
      rw [extendSchedule]
      generalize hnew : window.getD 0 0 + _ + window.getD 9 0 + _ = next
      have hnext : next.toBitVec = Sha2.schedule block (start + 16) := by
        have hold : ¬ start + 16 < 16 := by omega
        have h14 : start + 16 - 2 = start + 14 := by omega
        have h9 : start + 16 - 7 = start + 9 := by omega
        have h1 : start + 16 - 15 = start + 1 := by omega
        have h0 : start + 16 - 16 = start + 0 := by omega
        rw [← hnew, Sha2.schedule, if_neg hold, h14, h9, h1, h0]
        simp only [UInt32.toBitVec_add, toBitVec_smallSigma0,
          toBitVec_smallSigma1, hword 0 (by decide), hword 1 (by decide),
          hword 9 (by decide), hword 14 (by decide)]
        ac_rfl
      have hwindow : (window.drop 1 ++ [next]).map UInt32.toBitVec =
          (List.range' (start + 1) 16).map (Sha2.schedule block) := by
        have hdropped : (window.drop 1).map UInt32.toBitVec =
            (List.range' (start + 1) 15).map (Sha2.schedule block) := by
          rw [List.map_drop, h, List.range'_succ, List.map_cons, List.drop_one,
            List.tail_cons]
        have hlast : start + 1 + 15 = start + 16 := by omega
        have hrange := @List.range'_1_concat (start + 1) 15
        rw [hlast] at hrange
        rw [hrange, List.map_append, hdropped, List.map_append,
          List.map_singleton, List.map_singleton, hnext]
      have hlater := ih (start + 1) (window.drop 1 ++ [next]) hwindow
      rw [List.map_cons, hnext, hlater, List.range'_succ, List.map_cons,
        Nat.add_right_comm]

theorem schedule_eq {block : List UInt8} (h : block.length = 64) :
    (loadWords block ++ extendSchedule 48 (loadWords block)).map
        UInt32.toBitVec =
      (List.range' 0 64).map (Sha2.schedule block) := by
  have hhead : (loadWords block).map UInt32.toBitVec =
      (List.range' 0 16).map (Sha2.schedule block) := by
    rw [loadWords_eq block 16 h, ← List.range_eq_range']
    refine List.map_congr_left fun t ht => ?_
    rw [Sha2.schedule, if_pos (List.mem_range.mp ht)]
  rw [List.map_append, hhead, extendSchedule_eq block 48 0 _ hhead,
    ← List.map_append, List.range'_append_1]

/-- The rounds with constants and words taken from two lists. -/
theorem value_rounds (constants words : List UInt32) (s : Sha256Words) :
    value ((constants.zip words).foldl
        (fun s entry => round s entry.1 entry.2) s) =
      ((constants.map UInt32.toBitVec).zip (words.map UInt32.toBitVec)).foldl
        (fun v entry => Sha2.round v entry.1 entry.2) (value s) := by
  induction constants generalizing words s with
  | nil => rfl
  | cons constant constants ih =>
      cases words with
      | nil => rfl
      | cons word words =>
          rw [List.zip_cons_cons, List.foldl_cons, ih, value_round]
          rfl

theorem value_compress {block : List UInt8} (h : block.length = 64)
    (s : Sha256Words) :
    value (compress s block) = Sha2.compression (value s) block := by
  have hrounds := value_rounds kRoundConstants
    (loadWords block ++ extendSchedule 48 (loadWords block)) s
  rw [constants_eq, schedule_eq h, List.zip_map', List.foldl_map] at hrounds
  unfold Sha2.compression
  rw [List.range_eq_range', ← hrounds]
  simp only [compress, value, UInt32.toBitVec_add]
  congr 1 <;> exact BitVec.add_comm _ _

/-! ## Feeding -/

/-- The loop takes whole blocks as long as there are some. -/
theorem absorbBlocks_eq (fuel : Nat) (state : Sha256Words) (data : List UInt8)
    (h : data.length ≤ fuel) :
    absorbBlocks fuel state data =
      ((blocks 64 data).foldl compress state, leftover 64 data) := by
  induction fuel generalizing state data with
  | zero =>
      rw [List.length_eq_zero_iff.mp (Nat.le_zero.mp h)]
      rfl
  | succ fuel ih =>
      rw [absorbBlocks]
      by_cases hwhole : data.length ≥ 64
      · have hfront : (data.take 64).length = 64 := List.length_take_of_le hwhole
        have hdvd : 64 ∣ (data.take 64).length := by rw [hfront]
        have hrest : (data.drop 64).length ≤ fuel := by
          rw [List.length_drop]
          omega
        have hblocks := @blocks_append _ 64 (data.drop 64) (data.take 64)
          (by decide) hdvd
        have hleft := @leftover_append _ 64 (data.drop 64) (data.take 64)
          (by decide) hdvd
        rw [List.take_append_drop] at hblocks hleft
        rw [if_pos hwhole, ih _ _ hrest, hblocks, hleft,
          blocks_single (by decide) hfront]
        rfl
      · have hshort : data.length < 64 := Nat.lt_of_not_ge hwhole
        rw [if_neg hwhole, blocks_of_lt hshort, leftover_of_lt hshort]
        rfl

/-- Feeding works off what is pending and the new data as one stream. -/
theorem update_eq (hasher : Sha256) (data : List UInt8)
    (hopen : hasher.finalized = false) (hshort : hasher.buffer.length < 64) :
    hasher.update data =
      { state := (blocks 64 (hasher.buffer ++ data)).foldl compress hasher.state
        buffer := leftover 64 (hasher.buffer ++ data)
        totalBytes := hasher.totalBytes + data.length.toUInt64
        finalized := false } := by
  obtain ⟨state, buffer, total, finalized⟩ := hasher
  dsimp only at hopen hshort ⊢
  subst hopen
  by_cases hempty : data = []
  · subst hempty
    rw [List.append_nil, blocks_of_lt hshort, leftover_of_lt hshort]
    simp [update]
  have hgoes : ¬ ((false || data.isEmpty) = true) := by simpa using hempty
  unfold update
  rw [if_neg hgoes]
  dsimp only
  generalize htake : (if buffer.length > 0 then
    min data.length (64 - buffer.length) else 0) = take
  have hjoined : buffer ++ data = (buffer ++ data.take take) ++ data.drop take := by
    rw [List.append_assoc, List.take_append_drop]
  have hfilled : (buffer ++ data.take take).length =
      buffer.length + min take data.length := by
    rw [List.length_append, List.length_take]
  rw [absorbBlocks_eq _ _ _ le_rfl]
  by_cases hfull : (buffer ++ data.take take).length = 64
  · -- the buffer is filled up and compressed
    have hdvd : 64 ∣ (buffer ++ data.take take).length := by rw [hfull]
    rw [if_pos hfull, hjoined, blocks_append (by decide) hdvd,
      leftover_append (by decide) hdvd, blocks_single (by decide) hfull]
    rfl
  · rw [if_neg hfull]
    by_cases hpending : buffer.length > 0
    · -- all of the data fit behind what is pending
      rw [if_pos hpending] at htake
      have hall : data.length ≤ take := by omega
      have hfits : (buffer ++ data).length < 64 := by
        rw [List.length_append]
        omega
      rw [List.take_of_length_le hall, List.drop_of_length_le hall,
        blocks_of_lt hfits, leftover_of_lt hfits]
      simp [blocks, leftover]
    · -- nothing is pending
      rw [if_neg hpending] at htake
      have hnone : buffer = [] := List.length_eq_zero_iff.mp (by omega)
      rw [← htake, hnone]
      rfl

/-- What the hasher holds after a message. -/
structure Holds (hasher : Sha256) (message : List UInt8) : Prop where
  streamed : Streamed compress 64 {} message hasher.state hasher.buffer
  total : hasher.totalBytes = message.length.toUInt64
  opened : hasher.finalized = false

theorem Holds.update {hasher : Sha256} {message : List UInt8}
    (h : hasher.Holds message) (data : List UInt8) :
    (hasher.update data).Holds (message ++ data) := by
  have hshort := h.streamed.length_pending (by decide)
  rw [update_eq hasher data h.opened hshort]
  refine ⟨h.streamed.feed (by decide) data, ?_, rfl⟩
  rw [h.total, List.length_append]
  exact (UInt64.ofNat_add _ _).symm

/-- Piece by piece. -/
theorem Holds.feed {hasher : Sha256} {message : List UInt8}
    (h : hasher.Holds message) (chunks : List (List UInt8)) :
    (chunks.foldl Sha256.update hasher).Holds (message ++ chunks.flatten) := by
  induction chunks generalizing hasher message with
  | nil =>
      rw [List.flatten_nil, List.append_nil]
      exact h
  | cons chunk chunks ih =>
      rw [List.foldl_cons, List.flatten_cons, ← List.append_assoc]
      exact ih (h.update chunk)

theorem holds_start : Holds {} [] :=
  ⟨.start compress (by decide) {}, rfl, rfl⟩

/-! ## Finishing -/

theorem value_foldl_compress (pieces : List (List UInt8)) (s : Sha256Words)
    (h : ∀ piece ∈ pieces, piece.length = 64) :
    value (pieces.foldl compress s) =
      pieces.foldl Sha2.compression (value s) := by
  induction pieces generalizing s with
  | nil => rfl
  | cons piece pieces ih =>
      have hpiece := h piece List.mem_cons_self
      have hpieces : ∀ later ∈ pieces, later.length = 64 := fun later hlater =>
        h later (List.mem_cons_of_mem _ hlater)
      rw [List.foldl_cons, ih _ hpieces, value_compress hpiece,
        List.foldl_cons]

theorem wordBytes_eq (s : Sha256Words) : wordBytes s = (value s).bytes := by
  simp [wordBytes, storeBe32_eq, Sha2.HashValue.bytes, value]

/-- The bytes taken from the padding of the source are the bit and the zeros. -/
theorem take_padding (length : Nat) :
    (((0x80 : UInt8) :: List.replicate 71 0).take
        (if length % 64 < 56 then 56 - length % 64
          else 120 - length % 64)) =
      0x80 :: List.replicate (Sha2.zeroCount length) 0 := by
  have hzeros : (if length % 64 < 56 then 56 - length % 64
      else 120 - length % 64) = Sha2.zeroCount length + 1 := by
    unfold Sha2.zeroCount
    split <;> omega
  have hroom : Sha2.zeroCount length ≤ 71 := by
    unfold Sha2.zeroCount
    omega
  rw [hzeros, List.take_succ_cons, List.take_replicate, Nat.min_eq_left hroom]

/-- The byte count times eight does not wrap around. -/
theorem bitLength_eq {length : Nat} (h : length < 2 ^ 61) :
    (length.toUInt64 * 8).toNat = 8 * length := by
  have height : (8 : UInt64).toNat = 8 := rfl
  rw [UInt64.toNat_mul, height, Nat.toUInt64_eq, UInt64.toNat_ofNat',
    Nat.mod_eq_of_lt (by omega), Nat.mod_eq_of_lt (by omega), Nat.mul_comm]

/-- Finishing feeds the padding, and nothing is pending behind it. -/
theorem Holds.finish {hasher : Sha256} {message : List UInt8}
    (h : hasher.Holds message) (hlength : message.length < 2 ^ 61) :
    hasher.finish.bytes = Sha2.sha256 message := by
  have hbuffered : hasher.buffer.length = message.length % 64 := by
    rw [h.streamed.pending, length_leftover_eq]
  have hclosed : ¬ hasher.finalized = true := by
    rw [h.opened]
    exact Bool.false_ne_true
  have hpadded := (h.update (0x80 :: List.replicate
    (Sha2.zeroCount message.length) 0)).update
      (bigEndian 8 (8 * message.length))
  have hstate := hpadded.streamed.state
  unfold Sha256.finish
  rw [if_neg hclosed]
  dsimp only
  rw [hbuffered, take_padding, lengthBytes_eq, h.total, bitLength_eq hlength,
    wordBytes_eq, hstate, value_foldl_compress, value_initial]
  · rfl
  · intro piece hpiece
    exact length_of_mem_blocks hpiece

end Sha256

/--
Whatever the pieces, the digest is that of the standard for the bytes put
together, and no whole block stays pending.
-/
theorem digest_is_the_standard_one (chunks : List (List UInt8))
    (h : chunks.flatten.length < 2 ^ 61) :
    (chunks.foldl Sha256.update {}).finish.bytes =
        Foundation.Sha2.sha256 chunks.flatten ∧
      (∀ others : List (List UInt8), others.flatten = chunks.flatten →
        (others.foldl Sha256.update {}).finish =
          (chunks.foldl Sha256.update {}).finish) ∧
      ∀ fed, fed <+: chunks →
        (fed.foldl Sha256.update {}).buffer.length < 64 := by
  have hdigest : ∀ pieces : List (List UInt8),
      pieces.flatten = chunks.flatten →
      (pieces.foldl Sha256.update {}).finish.bytes =
        Foundation.Sha2.sha256 chunks.flatten := by
    intro pieces hsame
    rw [← hsame] at h ⊢
    exact (Sha256.holds_start.feed pieces).finish h
  refine ⟨hdigest chunks rfl, ?_, ?_⟩
  · intro others hsame
    have hbytes := (hdigest others hsame).trans (hdigest chunks rfl).symm
    generalize (others.foldl Sha256.update {}).finish = digest at hbytes ⊢
    cases digest
    cases hbytes
    rfl
  · intro fed _
    exact (Sha256.holds_start.feed fed).streamed.length_pending (by decide)

/-- The test vector `abc`, in two pieces. -/
theorem abc_has_the_standard_digest :
    ([[0x61], [0x62, 0x63]].foldl Sha256.update {}).finish.bytes =
        Foundation.Sha2.sha256 [0x61, 0x62, 0x63] ∧
      ([[0x61], [0x62, 0x63]].foldl Sha256.update {}).finish.bytes =
        [0xba, 0x78, 0x16, 0xbf, 0x8f, 0x01, 0xcf, 0xea, 0x41, 0x41, 0x40,
         0xde, 0x5d, 0xae, 0x22, 0x23, 0xb0, 0x03, 0x61, 0xa3, 0x96, 0x17,
         0x7a, 0x9c, 0xb4, 0x10, 0xff, 0x61, 0xf2, 0x00, 0x15, 0xad] :=
  ⟨(digest_is_the_standard_one [[0x61], [0x62, 0x63]] (by decide)).1,
    by decide +kernel⟩

end FlowOffload
