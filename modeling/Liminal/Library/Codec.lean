import Liminal.Library.Fallible
import Mathlib.Algebra.GroupWithZero.Nat
import Mathlib.Data.List.Nodup

/-!
# Byte formats

Writing gives bytes or an error; reading consumes a prefix and can mark the input as invalid without
stopping, so that a wrong length is found before a wrong value. `Reads`: what was written is read
back, whatever follows it, and nothing is marked. Its rules follow a reader's steps.
-/

namespace Codec

open Fallible List

abbrev Bytes := List UInt8

/-! ### Numbers -/

def bigEndian : Nat → Nat → Bytes
  | 0, _ => []
  | width + 1, value => UInt8.ofNat (value / 256 ^ width) :: bigEndian width (value % 256 ^ width)

def ofBigEndian : Bytes → Nat
  | [] => 0
  | byte :: rest => byte.toNat * 256 ^ rest.length + ofBigEndian rest

@[simp] theorem bigEndian_length (width value : Nat) : (bigEndian width value).length = width := by
  induction width generalizing value with
  | zero => rfl
  | succ width ih => simp [bigEndian, ih]

theorem ofBigEndian_bigEndian {width value : Nat} (h : value < 256 ^ width) :
    ofBigEndian (bigEndian width value) = value := by
  induction width generalizing value with
  | zero =>
    have hzero : value = 0 := by simpa using h
    simp [bigEndian, ofBigEndian, hzero]
  | succ width ih =>
    have hpos : 0 < 256 ^ width := Nat.pow_pos (by decide)
    have hdigit : value / 256 ^ width < 256 := by
      rw [Nat.div_lt_iff_lt_mul hpos, ← Nat.pow_succ']
      exact h
    have hbyte : (UInt8.ofNat (value / 256 ^ width)).toNat = value / 256 ^ width := by
      exact Nat.mod_eq_of_lt hdigit
    rw [bigEndian, ofBigEndian, bigEndian_length, hbyte, ih (Nat.mod_lt _ hpos)]
    exact Nat.div_add_mod' value (256 ^ width)

/-! ### Writing -/

variable {ε δ α β : Type}

abbrev Put (ε : Type) := Except ε Bytes

namespace Put

/-- A number of a fixed width; one that does not fit has no encoding. -/
def unsigned (range : ε) (width value : Nat) : Put ε :=
  if value < 256 ^ width then .ok (bigEndian width value) else .error range

def seq : List (Put ε) → Except ε Bytes
  | [] => .ok []
  | first :: others => do
    let bytes ← first
    let rest ← seq others
    return bytes ++ rest

theorem unsigned_eq_ok {range : ε} {width value : Nat} {bytes : Bytes} :
    unsigned range width value = .ok bytes ↔ value < 256 ^ width ∧ bytes = bigEndian width value := by
  unfold unsigned
  split
  · rename_i hfits
    simp [hfits, eq_comm]
  · rename_i hfits
    simp [hfits]

theorem seq_cons_eq_ok {first : Put ε} {others : List (Put ε)} {bytes : Bytes} : seq (first :: others) = .ok bytes ↔
      ∃ start rest, first = .ok start ∧ seq others = .ok rest ∧ bytes = start ++ rest := by
  simp only [seq, ok_iff, exists_and_left, @eq_comm _ bytes]

variable {bad : ε → Prop}

theorem avoids_unsigned {range : ε} (h : ¬bad range) (width value : Nat) : Avoids bad (unsigned range width value) := by
  unfold unsigned
  split
  · exact avoids_ok _
  · exact avoids_error h

@[simp] theorem avoids_seq {puts : List (Put ε)} (h : ∀ put ∈ puts, Avoids bad put) : Avoids bad (seq puts) := by
  induction puts with
  | nil => exact avoids_ok _
  | cons put puts ih =>
    rw [forall_mem_cons] at h
    exact h.1.bind fun _ _ => (ih h.2).bind fun _ _ => avoids_ok _

def Fits (put : Put ε) (bound : Nat) : Prop := ∃ bytes, put = .ok bytes ∧ bytes.length ≤ bound

namespace Fits

variable {put : Put ε} {puts : List (Put ε)} {bound others : Nat}

theorem mono (h : Fits put bound) (hle : bound ≤ others) : Fits put others := by
  obtain ⟨bytes, hput, hlength⟩ := h
  exact ⟨bytes, hput, Nat.le_trans hlength hle⟩

theorem unsigned {range : ε} {width value : Nat} (h : value < 256 ^ width) :
    Fits (Put.unsigned range width value) width :=
  ⟨_, unsigned_eq_ok.mpr ⟨h, rfl⟩, Nat.le_of_eq (bigEndian_length width value)⟩

theorem nil : Fits (seq [] : Put ε) 0 := ⟨[], rfl, Nat.le_refl 0⟩

theorem cons (hfirst : Fits put bound) (hrest : Fits (seq puts) others) :
    Fits (seq (put :: puts)) (bound + others) := by
  obtain ⟨start, hstart, hstartLength⟩ := hfirst
  obtain ⟨rest, hrest, hrestLength⟩ := hrest
  refine ⟨start ++ rest, seq_cons_eq_ok.mpr ⟨start, rest, hstart, hrest, rfl⟩, ?_⟩
  rw [length_append]
  exact Nat.add_le_add hstartLength hrestLength

end Fits

end Put

/-! ### Reading -/

/-- What is left of the input, and whether a field outside its domain has been seen. -/
structure Cursor where
  rest : Bytes
  invalid : Bool

abbrev Get (ε : Type) := StateT Cursor (Except ε)

namespace Get

def take (short : Nat → Nat → ε) (length : Nat) : Get ε Bytes := fun cursor =>
  if cursor.rest.length < length then .error (short length cursor.rest.length)
  else .ok (cursor.rest.take length, { cursor with rest := cursor.rest.drop length })

def unsigned (short : Nat → Nat → ε) (width : Nat) : Get ε Nat := ofBigEndian <$> take short width

def remaining : Get ε Nat := fun cursor => .ok (cursor.rest.length, cursor)

def fail (error : ε) : Get ε α := fun _ => .error error

def invalidate : Get ε Unit := fun cursor => .ok ((), { cursor with invalid := true })

def invalidateUnless (condition : Prop) [Decidable condition] : Get ε Unit :=
  if condition then pure () else invalidate

def require (condition : Prop) [Decidable condition] (error : ε) : Get ε Unit :=
  if condition then pure () else fail error

def orFail (error : ε) : Option α → Get ε α
  | some value => pure value
  | none => fail error

def times (get : Get ε α) : Nat → Get ε (List α)
  | 0 => pure []
  | count + 1 => do
    let value ← get
    let values ← times get count
    return value :: values

def Ensures (get : Get ε α) (P : α → Prop) : Prop :=
  ∀ cursor value rest, get cursor = .ok (value, rest) → P value

namespace Ensures

variable {get : Get ε α} {next : α → Get ε β} {P : α → Prop} {Q : β → Prop}

theorem any : Ensures get fun _ => True := fun _ _ _ _ => trivial

theorem bind (hget : Ensures get P) (hnext : ∀ value, P value → Ensures (next value) Q) : Ensures (get >>= next) Q := by
  intro cursor result rest h
  obtain ⟨⟨value, between⟩, hvalue, hresult⟩ :=
    bind_eq_ok.mp (show (get cursor >>= fun pair => next pair.1 pair.2) = .ok (result, rest) from h)
  exact hnext value (hget cursor value between hvalue) between result rest hresult

protected theorem pure {value : α} (h : P value) : Ensures (pure value : Get ε α) P := by
  intro cursor value' rest hpure
  obtain ⟨rfl, -⟩ := Prod.mk.inj (Except.ok.inj hpure)
  exact h

theorem fail {error : ε} : Ensures (fail error) P := by
  intro cursor value rest hfail
  cases hfail

theorem require {condition : Prop} [Decidable condition] {error : ε} :
    Ensures (Get.require condition error) fun _ => condition := by
  unfold Get.require
  split
  · exact .pure ‹_›
  · exact .fail

end Ensures

end Get

/-! ### Tags -/

class Registry (T : Type) [DecidableEq T] where
  table : List (T × Nat)
  complete : ∀ tag : T, tag ∈ table.map Prod.fst := by intro tag; cases tag <;> decide
  values_nodup : (table.map Prod.snd).Nodup := by decide
  tags_nodup : (table.map Prod.fst).Nodup := by decide

namespace Registry

variable {T : Type} [DecidableEq T] [Registry T]

def wireValue (tag : T) : Nat := ((table.find? fun entry => entry.1 = tag).map Prod.snd).getD 0

def ofWire? (value : Nat) : Option T := (table.find? fun entry => entry.2 = value).map Prod.fst

theorem mem_table (tag : T) : (tag, wireValue tag) ∈ table := by
  obtain ⟨⟨tag', value⟩, hmem, rfl⟩ := mem_map.mp (complete tag)
  have hsome : (table.find? fun entry : T × Nat => entry.1 = tag').isSome := by
    rw [find?_isSome]
    exact ⟨_, hmem, by simp⟩
  obtain ⟨entry, hfind⟩ := Option.isSome_iff_exists.mp hsome
  have hkey : entry.1 = tag' := by simpa using find?_some hfind
  have hvalue : wireValue tag' = entry.2 := by simp [wireValue, hfind]
  rw [hvalue, ← hkey]
  exact mem_of_find?_eq_some hfind

@[simp] theorem ofWire?_wireValue (tag : T) : ofWire? (wireValue tag) = some tag := by
  have hsome : (table.find? fun entry : T × Nat => entry.2 = wireValue tag).isSome := by
    rw [find?_isSome]
    exact ⟨_, mem_table tag, by simp⟩
  obtain ⟨entry, hfind⟩ := Option.isSome_iff_exists.mp hsome
  have hvalue : entry.2 = wireValue tag := by simpa using find?_some hfind
  have hentry : entry = (tag, wireValue tag) :=
    inj_on_of_nodup_map values_nodup (mem_of_find?_eq_some hfind) (mem_table tag) hvalue
  simp [ofWire?, hfind, hentry]

theorem wireValue_of_ofWire? {value : Nat} {tag : T} (h : ofWire? value = some tag) : wireValue tag = value := by
  obtain ⟨entry, hfind, rfl⟩ := Option.map_eq_some_iff.mp h
  have hvalue : entry.2 = value := by simpa using find?_some hfind
  have hentry : (entry.1, wireValue entry.1) = entry :=
    inj_on_of_nodup_map tags_nodup (mem_table entry.1) (mem_of_find?_eq_some hfind) rfl
  rw [← hvalue, ← hentry]

end Registry

/-! ### Reading back -/

/-- Whatever was written for the value is read back as the value, up to what follows. -/
def Reads (get : Get ε α) (put : Put δ) (value : α) : Prop := ∀ bytes, put = .ok bytes → ∀ rest,
    get ⟨bytes ++ rest, false⟩ = .ok (value, ⟨rest, false⟩)

namespace Reads

variable {get : Get ε α} {put : Put δ} {puts : List (Put δ)} {value : α} {result : β} {next : α → Get ε β}

theorem bind_of_ok {cursor cursor' : Cursor} (h : get cursor = .ok (value, cursor')) :
    (get >>= next) cursor = next value cursor' := by
  simp only [bind, StateT.bind, h]
  rfl

protected theorem pure (value : α) : Reads (pure value : Get ε α) (Put.seq [] : Put δ) value := by
  intro bytes hput rest
  obtain rfl : [] = bytes := Except.ok.inj hput
  rfl

theorem map (f : α → β) (h : Reads get put value) : Reads (f <$> get) put (f value) := by
  intro bytes hput rest
  simp only [Functor.map, StateT.map, h bytes hput rest]
  rfl

theorem cons (hfirst : Reads get put value) (hnext : Reads (next value) (Put.seq puts) result) :
    Reads (get >>= next) (Put.seq (put :: puts)) result := by
  intro bytes hput rest
  obtain ⟨start, others, hstart, hothers, rfl⟩ := Put.seq_cons_eq_ok.mp hput
  rw [append_assoc, bind_of_ok (hfirst start hstart (others ++ rest))]
  exact hnext others hothers rest

theorem single (h : Reads get put value) : Reads get (Put.seq [put]) value := by
  intro bytes hput rest
  obtain ⟨start, others, hstart, hothers, rfl⟩ := Put.seq_cons_eq_ok.mp hput
  obtain rfl : [] = others := Except.ok.inj hothers
  rw [append_nil]
  exact h start hstart rest

theorem andThen (hfirst : Reads get put value) (hnext : Reads (next value) (Put.seq [] : Put δ) result) :
    Reads (get >>= next) put result := by
  intro bytes hput rest
  rw [bind_of_ok (hfirst bytes hput rest)]
  exact hnext [] rfl rest

variable {condition : Prop} {error : ε}

theorem check [Decidable condition] {next : Unit → Get ε β} (h : condition)
    (hnext : Reads (next ()) put result) : Reads (Get.invalidateUnless condition >>= next) put result := by
  intro bytes hput rest
  rw [Get.invalidateUnless, if_pos h]
  exact hnext bytes hput rest

theorem marked [Decidable condition] (h : condition) :
    Reads (Get.invalidateUnless condition : Get ε Unit) (Put.seq [] : Put δ) () := by
  rw [Get.invalidateUnless, if_pos h]
  exact Reads.pure ()

theorem require [Decidable condition] {next : Unit → Get ε β} (h : condition) (hnext : Reads (next ()) put result) :
    Reads (Get.require condition error >>= next) put result := by
  intro bytes hput rest
  rw [Get.require, if_pos h]
  exact hnext bytes hput rest

theorem required [Decidable condition] (h : condition) :
    Reads (Get.require condition error) (Put.seq [] : Put δ) () := by
  rw [Get.require, if_pos h]
  exact Reads.pure ()

theorem orFail {option : Option α} (h : option = some value) (hnext : Reads (next value) put result) :
    Reads (Get.orFail error option >>= next) put result := by
  subst h
  exact hnext

theorem ofSome {option : Option α} (h : option = some value) :
    Reads (Get.orFail error option) (Put.seq [] : Put δ) value := by
  subst h
  exact Reads.pure value

theorem times {put : α → Put δ} (h : ∀ value, Reads get (put value) value) (values : List α) :
    Reads (Get.times get values.length) (Put.seq (values.map put)) values := by
  induction values with
  | nil => exact Reads.pure []
  | cons value values ih =>
    intro bytes hput rest
    obtain ⟨start, others, hstart, hothers, rfl⟩ := Put.seq_cons_eq_ok.mp hput
    rw [append_assoc]
    simp only [length_cons, Get.times]
    rw [bind_of_ok (h value start hstart (others ++ rest)), bind_of_ok (ih others hothers rest)]
    rfl

end Reads

theorem take_append {short : Nat → Nat → ε} {bytes rest : Bytes} {invalid : Bool} :
    Get.take short bytes.length ⟨bytes ++ rest, invalid⟩ = .ok (bytes, ⟨rest, invalid⟩) := by
  simp [Get.take]

theorem unsigned_reads (short : Nat → Nat → ε) (range : δ) (width value : Nat) :
    Reads (Get.unsigned short width) (Put.unsigned range width value) value := by
  intro bytes hput rest
  obtain ⟨hfits, rfl⟩ := Put.unsigned_eq_ok.mp hput
  have htake : Get.take short (bigEndian width value).length ⟨bigEndian width value ++ rest, false⟩ =
      .ok (bigEndian width value, ⟨rest, false⟩) := take_append
  rw [bigEndian_length] at htake
  simp only [Get.unsigned, Functor.map, StateT.map, htake]
  show Except.ok (ofBigEndian (bigEndian width value), _) = _
  rw [ofBigEndian_bigEndian hfits]

end Codec
