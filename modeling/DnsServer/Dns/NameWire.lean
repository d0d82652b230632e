import DnsServer.Dns.Name

namespace DnsServer

open Bytes Utf8 Lowercase

/-- 1 to 63 ASCII bytes, no capital. -/
structure PlainLabel (label : String) : Prop where
  nonempty : 1 ≤ byteLen label
  short : byteLen label ≤ 63
  ascii : Ascii label
  small : NoCapital label

instance (label : String) : Decidable (PlainLabel label) :=
  decidable_of_iff (1 ≤ byteLen label ∧ byteLen label ≤ 63 ∧ Ascii label ∧ NoCapital label)
    ⟨fun ⟨nonempty, short, ascii, small⟩ => ⟨nonempty, short, ascii, small⟩,
      fun plain => ⟨plain.nonempty, plain.short, plain.ascii, plain.small⟩⟩

/-- A label that a reader gives back as it was written: its length byte is neither the end of the name
nor a pointer, and its text is its own lower case. -/
structure ReadableLabel (label : String) : Prop where
  nonempty : 1 ≤ byteLen label
  short : byteLen label ≤ 191
  small : toLowercase label = label

theorem PlainLabel.readable {label : String} (plain : PlainLabel label) : ReadableLabel label where
  nonempty := plain.nonempty
  short := plain.short.trans (by decide)
  small := toLowercase_fixed plain.ascii plain.small

namespace DnsName

def Plain (name : DnsName) : Prop := ∀ label ∈ name.labels, PlainLabel label

instance (name : DnsName) : Decidable name.Plain :=
  inferInstanceAs (Decidable (∀ label ∈ name.labels, PlainLabel label))

def Readable (name : DnsName) : Prop := ∀ label ∈ name.labels, ReadableLabel label

theorem Plain.readable {name : DnsName} (plain : name.Plain) : name.Readable :=
  fun label member => (plain label member).readable

variable {data : List UInt8}

theorem labelWire_length (label : String) : (labelWire label).length = 1 + byteLen label := by
  rw [labelWire, List.length_cons, byteLen]
  omega

theorem toWire_pos (name : DnsName) : 0 < name.toWire.length := by
  simp [toWire]

/-- The length bytes of all labels are their lengths, neither the end of the name nor a pointer. -/
def Delimited (name : DnsName) : Prop := ∀ label ∈ name.labels, 1 ≤ byteLen label ∧ byteLen label ≤ 191

theorem Readable.delimited {name : DnsName} (readable : name.Readable) : name.Delimited :=
  fun label member => ⟨(readable label member).nonempty, (readable label member).short⟩

theorem Readable.lowered {name : DnsName} (readable : name.Readable) : name.labels.map toLowercase = name.labels :=
  (List.map_congr_left fun label member => (readable label member).small).trans (List.map_id' _)

theorem parseStep_delimited {c : Cursor} {label : String} (long : 1 ≤ byteLen label) (short : byteLen label ≤ 191)
    (held : Holds data c.current (labelWire label)) (s : Nat) :
    parseStep data c s = (.ok (.inl ⟨c.labels ++ [toLowercase label], c.jumped,
      c.current + (labelWire label).length, c.jumps⟩), s) := by
  have fits := held.length_le (by simp [labelWire])
  rw [labelWire_length] at fits
  have inside : c.current < data.length := by omega
  obtain ⟨first, body⟩ := Holds.cons_iff.mp held
  have head : data[c.current].toNat = byteLen label := by
    rw [first.getElem inside, UInt8.toNat_ofNat']
    omega
  have bytes : (data.drop (c.current + 1)).take (byteLen label) = asBytes label := body.take
  rw [parseStep_label inside (by omega) (by omega), head, if_neg (by omega), bytes,
    fromUtf8Lossy_asBytes, labelWire_length, Nat.add_assoc]

theorem parseStep_root {c : Cursor} (plainly : c.jumped = false) (held : Holds data c.current [0]) (s : Nat) :
    parseStep data c s = (.ok (.inr ⟨c.labels⟩), c.current + 1) := by
  have inside := held.length_le (by simp)
  simp only [List.length_singleton] at inside
  rw [parseStep_end (by omega) (held.getElem (by omega)), plainly]
  rfl

/-- The loop over a name written without pointers, from any label on. -/
theorem loop_delimited {labels before : List String} {current fuel : Nat}
    (delimited : ∀ label ∈ labels, 1 ≤ byteLen label ∧ byteLen label ≤ 191)
    (held : Holds data current (labels.flatMap labelWire ++ [0])) (enough : labels.length < fuel) (s : Nat) :
    Prog.loop (parseStep data) fuel ⟨before, false, current, 0⟩ s =
      (.ok ⟨before ++ labels.map toLowercase⟩, current + (labels.flatMap labelWire ++ [0]).length) := by
  induction labels generalizing before current fuel with
  | nil =>
    obtain ⟨fuel, rfl⟩ : ∃ rest, fuel = rest + 1 := ⟨fuel - 1, by omega⟩
    have stop := parseStep_root (c := ⟨before, false, current, 0⟩) rfl held s
    rw [Prog.loop, Prog.bind_ok stop, List.map_nil, List.append_nil]
    rfl
  | cons label labels ih =>
    obtain ⟨fuel, rfl⟩ : ∃ rest, fuel = rest + 1 := ⟨fuel - 1, by omega⟩
    rw [List.flatMap_cons, List.append_assoc] at held
    obtain ⟨first, rest⟩ := Holds.append_iff.mp held
    obtain ⟨long, short⟩ := delimited label List.mem_cons_self
    have step := parseStep_delimited (c := ⟨before, false, current, 0⟩) long short first s
    rw [Prog.loop, Prog.bind_ok step]
    dsimp only
    rw [ih (fun label member => delimited label (List.mem_cons_of_mem _ member)) rest (by simpa using enough)]
    simp only [List.append_assoc, List.singleton_append, List.flatMap_cons, List.map_cons, List.length_append]
    rw [Nat.add_assoc]

theorem labels_length_le (labels : List String) : labels.length ≤ (labels.flatMap labelWire).length := by
  induction labels with
  | nil => exact le_rfl
  | cons label labels ih =>
    simp only [List.length_cons, List.flatMap_cons, List.length_append, labelWire_length]
    omega

/-- A name whose length bytes can be taken for lengths is read to its end, in lower case. -/
theorem parse_delimited {name : DnsName} {o : Nat} (delimited : name.Delimited) (held : Holds data o name.toWire) :
    parse data o = (.ok ⟨name.labels.map toLowercase⟩, o + name.toWire.length) := by
  have fits := held.length_le (List.ne_nil_of_length_pos name.toWire_pos)
  have count := labels_length_le name.labels
  have size : name.toWire.length = (name.labels.flatMap labelWire).length + 1 := by simp [toWire]
  exact loop_delimited delimited held (by omega) o

/-- A readable name is read back wherever the buffer holds its wire form. -/
theorem parse_toWire {name : DnsName} {o : Nat} (readable : name.Readable) (held : Holds data o name.toWire) :
    parse data o = (.ok name, o + name.toWire.length) := by
  rw [parse_delimited readable.delimited held, readable.lowered]

end DnsName

end DnsServer
