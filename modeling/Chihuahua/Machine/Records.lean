import Chihuahua.Machine.Strings

/-
  Words and records as lists of bytes, and tables of records
  in memory.

  A codec says how a record is laid out and how it is read
  back; a table is read record by record.

  Main declarations:
    * `wordBytes`, `load_of_holdsText` and
      `holdsText_paint`
    * `RecordCodec` and its round trip
    * `RecordCodec.map_decode_table`
-/

------------------------------------------------------------
-- Words
------------------------------------------------------------

namespace ByteMachine

/- The bytes of a word, the least significant first. -/
def wordBytes
    (n : Nat)
    (v : BitVec (8 * n)) : List Byte :=
  (List.range n).map (fun i => v.extractLsb' (8 * i) 8)

@[simp] theorem length_wordBytes
    (n : Nat)
    (v : BitVec (8 * n)) :
    (wordBytes n v).length = n := by
  simp [wordBytes]

theorem load_of_holdsText
    {m : Memory}
    {a : Addr}
    {n : Nat}
    {v : BitVec (8 * n)}
    (hText : HoldsText m a (wordBytes n v)) :
    m.load a n = v := by
  apply Memory.load_eq_of_bytes
  intro i hi
  rw [hText i (by simpa using hi)]
  simp [wordBytes]

def bytes16 (v : BitVec 16) : List Byte :=
  wordBytes 2 v

def bytes32 (v : BitVec 32) : List Byte :=
  wordBytes 4 v

def bytes64 (v : BitVec 64) : List Byte :=
  wordBytes 8 v

@[simp] theorem length_bytes16 (v : BitVec 16) :
    (bytes16 v).length = 2 :=
  length_wordBytes 2 v

@[simp] theorem length_bytes32 (v : BitVec 32) :
    (bytes32 v).length = 4 :=
  length_wordBytes 4 v

@[simp] theorem length_bytes64 (v : BitVec 64) :
    (bytes64 v).length = 8 :=
  length_wordBytes 8 v

/- A block of memory that a text is painted on holds it. -/
theorem holdsText_paint
    (m : Memory)
    (a : Addr)
    {text : List Byte}
    (hSize : text.length ≤ 2 ^ 64)
    {content : Nat → Byte}
    (hContent :
      ∀ i (hi : i < text.length), content i = text[i]) :
    HoldsText
      (m.paint
        { base := a
          size := text.length
          content := content })
      a text := by
  intro i hi
  rw [Memory.paint_apply, if_pos (inRange_add_ofNat a hi),
    add_ofNat_sub_toNat a (by omega)]
  exact hContent i hi

section Loads

variable {m : Memory} {a : Addr}

theorem load16_of_holdsText
    {v : BitVec 16}
    (hText : HoldsText m a (bytes16 v)) :
    m.load16 a = v :=
  load_of_holdsText (n := 2) hText

theorem load32_of_holdsText
    {v : BitVec 32}
    (hText : HoldsText m a (bytes32 v)) :
    m.load32 a = v :=
  load_of_holdsText (n := 4) hText

theorem load64_of_holdsText
    {v : BitVec 64}
    (hText : HoldsText m a (bytes64 v)) :
    m.load64 a = v :=
  load_of_holdsText (n := 8) hText

end Loads

------------------------------------------------------------
-- Records
------------------------------------------------------------

/-
  Records of one size, with how they are laid out and how
  they are read. What was laid out is read back.
-/
structure RecordCodec (Record : Type) where
  size : Nat
  encode : Record → List Byte
  decode : Memory → Addr → Record
  hSize : ∀ record, (encode record).length = size
  hDecode :
    ∀ m a record,
      HoldsText m a (encode record) → decode m a = record

namespace RecordCodec

variable {Record : Type} (codec : RecordCodec Record)

/- One record behind the other. -/
def table (records : List Record) : List Byte :=
  records.flatMap codec.encode

@[simp] theorem length_table (records : List Record) :
    (codec.table records).length =
      codec.size * records.length := by
  induction records with
  | nil => rfl
  | cons record records ih =>
      have hCons :
          codec.table (record :: records) =
            codec.encode record ++ codec.table records := rfl
      rw [hCons, List.length_append, codec.hSize, ih,
        List.length_cons, Nat.mul_succ, Nat.add_comm]

/- By induction over the table, which moves its address. -/
theorem map_decode_table
    {m : Memory}
    {a : Addr}
    {records : List Record}
    (hText : HoldsText m a (codec.table records)) :
    (List.range records.length).map
        (fun i =>
          codec.decode m
            (a + BitVec.ofNat 64 (codec.size * i))) =
      records := by
  induction records generalizing a with
  | nil => rfl
  | cons record records ih =>
      obtain ⟨hHead, hTail⟩ := holdsText_append.mp hText
      rw [codec.hSize] at hTail
      have hLater := ih hTail
      rw [List.length_cons, List.range_succ_eq_map,
        List.map_cons, List.map_map, Nat.mul_zero,
        add_ofNat_zero, codec.hDecode m a record hHead]
      congr 1
      calc
        (List.range records.length).map
            ((fun i =>
                codec.decode m
                  (a + BitVec.ofNat 64 (codec.size * i))) ∘
              Nat.succ) =
          (List.range records.length).map
            (fun i =>
              codec.decode m
                (a + BitVec.ofNat 64 codec.size +
                  BitVec.ofNat 64 (codec.size * i))) := by
            refine List.map_congr_left ?_
            intro i _
            rw [Function.comp_apply, add_ofNat_add_ofNat,
              Nat.mul_succ, Nat.add_comm]
        _ = records := hLater

end RecordCodec

end ByteMachine
