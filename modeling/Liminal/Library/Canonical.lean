import Liminal.Library.Codec
import Mathlib.InformationTheory.Coding.UniquelyDecodable

/-!
# Canonical formats

`Writes`: what is read without a mark is exactly what is written for the value. The rules go through
`Completes`: the fields in `done` have been read, and the reader gives a value that is written as
these fields and the rest of what it consumes. A field that is not kept must be compared with
something; comparisons that only mark are collected in `known`. A `Format` agrees in both
directions.
-/

namespace Codec

open Fallible Get Put

variable {ε δ α β : Type}

/-! ### Numbers -/

theorem ofBigEndian_lt (bytes : Bytes) : ofBigEndian bytes < 256 ^ bytes.length := by
  induction bytes with
  | nil => simp [ofBigEndian]
  | cons byte rest ih =>
    have hbyte : byte.toNat + 1 ≤ 256 := UInt8.toNat_lt byte
    rw [ofBigEndian, List.length_cons, Nat.pow_succ']
    calc byte.toNat * 256 ^ rest.length + ofBigEndian rest
        < byte.toNat * 256 ^ rest.length + 256 ^ rest.length := Nat.add_lt_add_left ih _
      _ = (byte.toNat + 1) * 256 ^ rest.length := by rw [Nat.add_mul, Nat.one_mul]
      _ ≤ 256 * 256 ^ rest.length := Nat.mul_le_mul_right _ hbyte

theorem bigEndian_ofBigEndian (bytes : Bytes) : bigEndian bytes.length (ofBigEndian bytes) = bytes := by
  induction bytes with
  | nil => rfl
  | cons byte rest ih =>
    have hlt := ofBigEndian_lt rest
    have hdiv : (byte.toNat * 256 ^ rest.length + ofBigEndian rest) / 256 ^ rest.length =
        byte.toNat := by
      rw [Nat.mul_comm, Nat.mul_add_div (Nat.pow_pos (by decide)), Nat.div_eq_of_lt hlt, Nat.add_zero]
    have hmod : (byte.toNat * 256 ^ rest.length + ofBigEndian rest) % 256 ^ rest.length =
        ofBigEndian rest := by
      rw [Nat.mul_comm, Nat.mul_add_mod, Nat.mod_eq_of_lt hlt]
    rw [List.length_cons, ofBigEndian, bigEndian, hdiv, hmod, ih, UInt8.ofNat_toNat]

/-! ### Sequences of fields -/

@[simp] theorem Put.seq_single (put : Put δ) : seq [put] = put := by
  cases put with
  | error error => rfl
  | ok bytes => exact congrArg Except.ok (List.append_nil bytes)

variable {bytes : Bytes} {cursor rest : Cursor}

theorem Put.seq_append_eq_ok {puts : List (Put δ)} {put : Put δ} {start : Bytes}
    (hputs : seq puts = .ok start) (hput : put = .ok bytes) : seq (puts ++ [put]) = .ok (start ++ bytes) := by
  induction puts generalizing start with
  | nil =>
    obtain rfl := Except.ok.inj hputs
    rw [List.nil_append, List.nil_append, seq_single, hput]
  | cons first others ih =>
    obtain ⟨front, rest, hfirst, hothers, rfl⟩ := seq_cons_eq_ok.mp hputs
    rw [List.append_assoc]
    exact seq_cons_eq_ok.mpr ⟨front, rest ++ bytes, hfirst, ih hothers, rfl⟩

/-- The values with a property are written as they are, the others not at all. -/
def Put.only (error : δ) (P : α → Prop) [DecidablePred P] (put : α → Put δ) (value : α) : Put δ :=
  if P value then put value else .error error

theorem Put.only_eq_ok {error : δ} {P : α → Prop} [DecidablePred P] {put : α → Put δ} {value : α}
    : only error P put value = .ok bytes ↔ P value ∧ put value = .ok bytes := by
  unfold only
  split
  · rename_i hvalue
    simp [hvalue]
  · rename_i hvalue
    simp [hvalue]

/-! ### What is read was written -/

/-- What is read without being marked is what is written for the value. -/
def Writes (get : Get ε α) (put : α → Put δ) : Prop :=
  ∀ cursor value rest, get cursor = .ok (value, rest) → rest.invalid = false →
    cursor.invalid = false ∧ ∃ bytes, put value = .ok bytes ∧ cursor.rest = bytes ++ rest.rest

/-- With the fields `done` read before, what is read completes what is written for the value. The comparisons
`known` may be used, and a mark is never taken back. -/
def Completes (get : Get ε α) (known : Prop) (done : List (Put δ)) (put : α → Put δ) : Prop :=
  ∀ cursor value rest, get cursor = .ok (value, rest) → rest.invalid = false →
    cursor.invalid = false ∧ (known → ∀ start, seq done = .ok start →
      ∃ bytes, put value = .ok (start ++ bytes) ∧ cursor.rest = bytes ++ rest.rest)

theorem Get.bind_eq_ok {get : Get ε α} {next : α → Get ε β} {result : β} : (get >>= next) cursor = .ok (result, rest) ↔
      ∃ value between, get cursor = .ok (value, between) ∧ next value between = .ok (result, rest) := by
  show (get cursor >>= fun pair => next pair.1 pair.2) = .ok (result, rest) ↔ _
  rw [Fallible.bind_eq_ok, Prod.exists]

theorem Get.map_eq_ok {get : Get ε α} {f : α → β} {result : β} :
    (f <$> get) cursor = .ok (result, rest) ↔ ∃ value, get cursor = .ok (value, rest) ∧ f value = result := by
  show (get cursor >>= fun pair => pure (f pair.1, pair.2)) = .ok (result, rest) ↔ _
  simp only [Fallible.bind_eq_ok, pure_eq_ok, Prod.exists, Prod.mk.injEq]
  constructor
  · rintro ⟨value, rest', hget, rfl, rfl⟩
    exact ⟨value, hget, rfl⟩
  · rintro ⟨value, hget, rfl⟩
    exact ⟨value, rest, hget, rfl, rfl⟩

namespace Completes

variable {get : Get ε α} {part : α → Put δ} {next : α → Get ε β} {known : Prop}
  {done : List (Put δ)} {put : β → Put δ} {P : α → Prop}

theorem mono {get : Get ε β} {known' : Prop} (h : Completes get known' done put) (himp : known → known') :
    Completes get known done put := by
  intro cursor value rest hget hvalid
  obtain ⟨hcursor, hrest⟩ := h cursor value rest hget hvalid
  exact ⟨hcursor, fun hknown => hrest (himp hknown)⟩

/-- What was written for a field may tell more of its value than what it is to be written as. -/
theorem fieldOf {written : α → Put δ} {Q : α → Prop} (hwrites : Writes get written) (hensures : Ensures get P)
    (hwritten : ∀ {value bytes}, written value = .ok bytes → Q value ∧ part value = .ok bytes) (hnext : ∀ value,
      P value → Completes (next value) (known ∧ Q value) (done ++ [part value]) put) :
    Completes (get >>= next) known done put := by
  intro cursor result rest h hvalid
  obtain ⟨value, between, hget, hresult⟩ := Get.bind_eq_ok.mp h
  obtain ⟨hbetween, hrest⟩ :=
    hnext value (hensures cursor value between hget) between result rest hresult hvalid
  obtain ⟨hcursor, bytes, hbytes, happend⟩ := hwrites cursor value between hget hbetween
  obtain ⟨hvalue, hpart⟩ := hwritten hbytes
  refine ⟨hcursor, fun hknown start hstart => ?_⟩
  obtain ⟨others, hput, hothers⟩ :=
    hrest ⟨hknown, hvalue⟩ (start ++ bytes) (seq_append_eq_ok hstart hpart)
  refine ⟨bytes ++ others, by rw [hput, List.append_assoc], ?_⟩
  rw [happend, hothers, List.append_assoc]

theorem fieldWith (hwrites : Writes get part) (hensures : Ensures get P) (hnext : ∀ value, P value → Completes
    (next value) known (done ++ [part value]) put) : Completes (get >>= next) known done put :=
  fieldOf hwrites hensures (fun hbytes => ⟨trivial, hbytes⟩) fun value hvalue => (hnext value hvalue).mono And.left

theorem field (hwrites : Writes get part) (hnext : ∀ value, Completes (next value) known (done ++ [part value]) put) :
    Completes (get >>= next) known done put :=
  fieldWith hwrites .any fun value _ => hnext value

theorem fieldIf {error : δ} [DecidablePred P] (hwrites : Writes get (only error P part)) (hnext : ∀ value, Completes
    (next value) (known ∧ P value) (done ++ [part value]) put) : Completes (get >>= next) known done put :=
  fieldOf hwrites .any only_eq_ok.mp fun value _ => hnext value

protected theorem pure {value : β} (h : known → put value = seq done) :
    Completes (pure value : Get ε β) known done put := by
  intro cursor value' rest hpure hvalid
  obtain ⟨rfl, rfl⟩ := Prod.mk.inj (Except.ok.inj hpure)
  refine ⟨hvalid, fun hknown start hstart => ⟨[], ?_, rfl⟩⟩
  rw [h hknown, hstart, List.append_nil]

variable {error : ε}

theorem fail : Completes (fail error : Get ε β) known done put := by
  intro cursor value rest hfail
  cases hfail

theorem still (hstill : ∀ cursor value rest, get cursor = .ok (value, rest) → rest = cursor)
    (hnext : ∀ value, Completes (next value) known done put) : Completes (get >>= next) known done put := by
  intro cursor result rest h hvalid
  obtain ⟨value, between, hget, hresult⟩ := Get.bind_eq_ok.mp h
  obtain rfl := hstill cursor value between hget
  exact hnext value between result rest hresult hvalid

theorem marked {next : Unit → Get ε β} (hnext : Completes (next ()) False done put) :
    Completes (invalidate >>= next) known done put := by
  intro cursor result rest h hvalid
  obtain ⟨value, between, hget, hresult⟩ := bind_eq_ok.mp h
  obtain ⟨-, rfl⟩ := Prod.mk.inj (Except.ok.inj hget)
  exact absurd (hnext _ result rest hresult hvalid).1 (nofun : ¬true = false)

section

variable {condition : Prop} [Decidable condition] {next : Unit → Get ε β}

theorem check (hnext : Completes (next ())
    (known ∧ condition) done put) : Completes (invalidateUnless condition >>= next) known done put := by
  unfold invalidateUnless
  split
  · rename_i hcondition
    exact hnext.mono fun hknown => ⟨hknown, hcondition⟩
  · exact marked (hnext.mono False.elim)

theorem require (hnext : condition → Completes
    (next ()) known done put) : Completes (Get.require condition error >>= next) known done put := by
  unfold Get.require
  split
  · rename_i hcondition
    exact hnext hcondition
  · exact fail

end

theorem orFail {option : Option α} (hnext : ∀ value, option = some value → Completes (next value) known done put) :
    Completes (orFail error option >>= next) known done put := by
  cases option with
  | none => exact fail
  | some value => exact hnext value rfl

theorem lastIf {error : δ} [DecidablePred P] {f : α → β} (hwrites : Writes get (only error P part)) (h : ∀ value,
    known ∧ P value → put (f value) = seq (done ++ [part value])) : Completes (f <$> get) known done put := by
  exact fieldIf hwrites fun value => .pure (h value)

theorem map {f : α → β} (h : Completes get known done fun value => put (f value)) :
    Completes (f <$> get) known done put := by
  intro cursor result rest hmap hvalid
  obtain ⟨value, hget, rfl⟩ := Get.map_eq_ok.mp hmap
  exact h cursor value rest hget hvalid

end Completes

namespace Writes

variable {get : Get ε α} {put : α → Put δ}

theorem of_completes (h : Completes get True [] put) : Writes get put := by
  intro cursor value rest hget hvalid
  obtain ⟨hcursor, hrest⟩ := h cursor value rest hget hvalid
  exact ⟨hcursor, hrest trivial [] rfl⟩

theorem map {put : β → Put δ} {f : α → β} (h : Writes get fun value => put (f value)) : Writes (f <$> get) put := by
  intro cursor result rest hmap hvalid
  obtain ⟨value, hget, rfl⟩ := Get.map_eq_ok.mp hmap
  exact h cursor value rest hget hvalid

theorem fail {error : ε} : Writes (fail error) put := by
  intro cursor value rest hfail
  cases hfail

theorem times (h : Writes get put) (count : Nat) : Writes (times get count) fun values => seq (values.map put) := by
  induction count with
  | zero => exact of_completes (.pure fun _ => rfl)
  | succ count ih =>
    refine of_completes (.field h fun value => .field ih fun values => .pure fun _ => ?_)
    show seq (put value :: values.map put) = seq [put value, seq (values.map put)]
    simp only [seq]
    congr 1
    funext bytes
    cases seq (values.map put) with
    | error error => rfl
    | ok rest => exact congrArg (fun rest => Except.ok (bytes ++ rest)) (List.append_nil rest).symm

end Writes

theorem Get.Ensures.times_length (get : Get ε α) (count : Nat) :
    Ensures (times get count) fun values => values.length = count := by
  induction count with
  | zero => exact .pure rfl
  | succ count ih =>
    refine .bind .any fun value _ => .bind ih fun values hlength => .pure ?_
    rw [List.length_cons, hlength]

theorem take_eq_ok {short : Nat → Nat → ε} {length : Nat} : take short length cursor = .ok (bytes, rest) →
      bytes.length = length ∧ cursor.rest = bytes ++ rest.rest ∧ rest.invalid = cursor.invalid := by
  unfold take
  split
  · nofun
  · rename_i henough
    intro h
    obtain ⟨rfl, rfl⟩ := Prod.mk.inj (Except.ok.inj h)
    refine ⟨?_, (List.take_append_drop length cursor.rest).symm, rfl⟩
    rw [List.length_take]
    exact Nat.min_eq_left (Nat.le_of_not_lt henough)

theorem Get.Ensures.take_length (short : Nat → Nat → ε) (length : Nat) :
    Ensures (take short length) fun bytes => bytes.length = length :=
  fun _ _ _ h => (take_eq_ok h).1

theorem Get.Ensures.unsigned_lt (short : Nat → Nat → ε) (width : Nat) :
    Ensures (unsigned short width) fun value => value < 256 ^ width := by
  intro cursor value rest h
  obtain ⟨bytes, htake, rfl⟩ := Get.map_eq_ok.mp h
  rw [← (take_eq_ok htake).1]
  exact ofBigEndian_lt bytes

theorem take_writes (short : Nat → Nat → ε) (length : Nat) :
    Writes (take short length) fun bytes => (.ok bytes : Put δ) := by
  intro cursor bytes rest h hvalid
  obtain ⟨-, happend, hinvalid⟩ := take_eq_ok h
  exact ⟨hinvalid ▸ hvalid, bytes, rfl, happend⟩

def Quiet (get : Get ε α) : Prop :=
  ∀ cursor value rest, get cursor = .ok (value, rest) → rest.invalid = cursor.invalid

namespace Quiet

theorem unsigned {short : Nat → Nat → ε} {width : Nat} : Quiet (unsigned short width) := by
  intro cursor value rest h
  obtain ⟨bytes, htake, -⟩ := Get.map_eq_ok.mp h
  exact (take_eq_ok htake).2.2

theorem bind {get : Get ε α} {next : α → Get ε β} (hget : Quiet get)
    (hnext : ∀ value, Quiet (next value)) : Quiet (get >>= next) := by
  intro cursor result rest h
  obtain ⟨value, between, hvalue, hresult⟩ := Get.bind_eq_ok.mp h
  exact (hnext value between result rest hresult).trans (hget cursor value between hvalue)

protected theorem pure {value : α} : Quiet (pure value : Get ε α) := by
  intro cursor value' rest h
  rw [(Prod.mk.inj (Except.ok.inj h)).2]

end Quiet

theorem unsigned_writes (short : Nat → Nat → ε) (range : δ) (width : Nat) :
    Writes (unsigned short width) (unsigned range width) := by
  intro cursor value rest h hvalid
  obtain ⟨bytes, htake, rfl⟩ := Get.map_eq_ok.mp h
  obtain ⟨hlength, happend, hinvalid⟩ := take_eq_ok htake
  refine ⟨hinvalid ▸ hvalid, bytes, unsigned_eq_ok.mpr ⟨?_, ?_⟩, happend⟩
  · rw [← hlength]
    exact ofBigEndian_lt bytes
  · rw [← hlength, bigEndian_ofBigEndian]

/-! ### Formats -/

/-- A reader and a writer that agree in both directions. -/
class Format (get : Get ε α) (put : outParam (α → Put δ)) : Prop where
  reads : ∀ value, Reads get (put value) value
  writes : Writes get put

theorem Format.unsigned (short : Nat → Nat → ε) (range : δ) (width : Nat) :
    Format (unsigned short width) (unsigned range width) :=
  ⟨unsigned_reads short range width, unsigned_writes short range width⟩

section Fields

variable {get : Get ε α} {part : α → Put δ} [Format get part] {rest : α → Get ε β} {known : Prop}
  {done : List (Put δ)} {put : β → Put δ}

theorem Reads.next {puts : List (Put δ)} {value : α} {result : β} (h : Reads (rest value) (seq puts) result) :
    Reads (get >>= rest) (seq (part value :: puts)) result :=
  .cons (Format.reads value) h

theorem Reads.mapped {f : α → β} {value : α} {put : Put δ} (h : put = part value) : Reads (f <$> get) put (f value) :=
  h ▸ .map f (Format.reads value)

theorem Completes.next (h : ∀ value, Completes (rest value) known (done ++ [part value]) put) :
    Completes (get >>= rest) known done put :=
  .field Format.writes h

theorem Completes.next₂ {γ : Type} {get₂ : Get ε γ} {part₂ : γ → Put δ} [Format get₂ part₂] {rest : α → γ → Get ε β}
    (h : ∀ value value₂, Completes (rest value value₂) known (done ++ [part value] ++ [part₂ value₂]) put) :
    Completes (get >>= fun value => get₂ >>= rest value) known done put :=
  .next fun value => .next (h value)

theorem Completes.last {f : α → β} (h : ∀ value, known → put (f value) = seq (done ++ [part value])) :
    Completes (f <$> get) known done put := by
  exact next fun value => .pure (h value)

end Fields

/-! ### Words in a row -/

/-- Words that say at their start how long they are can be told apart in a row. -/
theorem uniquelyDecodable_of_extent {S : Set (List α)} (hne : [] ∉ S) (extent : List α → Nat) (hextent : ∀ word ∈ S,
    ∀ rest, extent (word ++ rest) = word.length) : InformationTheory.UniquelyDecodable S := by
  intro words
  induction words with
  | nil => rintro (_ | _) - hothers hsame <;> simp_all
  | cons word words ih =>
    rintro (_ | ⟨other, others⟩) hwords hothers hsame
    · simp_all
    · rw [List.forall_mem_cons] at hwords hothers
      rw [List.flatten_cons, List.flatten_cons] at hsame
      have hlength : word.length = other.length := by
        rw [← hextent word hwords.1, hsame, hextent other hothers.1]
      obtain ⟨rfl, hrest⟩ := List.append_inj hsame hlength
      rw [ih others hwords.2 hothers.2 hrest]

end Codec
