import ChannelLedger.Proofs.Slot.FirstFault
import ChannelLedger.Proofs.Wire.Growth

/-!
# Results one behind the other

The results of two calls, one behind the other, are results again, and the reads and writes in them are those
of the first and then those of the second (`ReadWrites.decode_append`). The first namespace that does not
decode decides, so the failure of the first results comes before that of the second.

Entries of the namespace of chaincode definitions are left out before they are looked into. They may stand
between any two fields of the results, with any bytes inside (`ReadWrites.Interspersed`), and neither the
records nor the failure change.

Main theorem `ReadWrites.decode_homomorphic`.
-/
namespace ChannelLedger

open Wire Outcome

/-! ## Messages one behind the other -/

/-- The namespaces of results one behind the other are those of the first and then those of the second. -/
theorem TxReadWriteSet.decode_append {front back : Bytes} {first second : TxReadWriteSet}
    (hfront : Message.decode front = .ok first) (hback : Message.decode back = .ok second) :
    ∃ sets : TxReadWriteSet, Message.decode (front ++ back) = .ok sets ∧
      sets.nsRwset = first.nsRwset ++ second.nsRwset := by
  obtain ⟨record, hrecord, rfl⟩ := map_eq_ok.1 hfront
  obtain ⟨record', hrecord', rfl⟩ := map_eq_ok.1 hback
  have hgrows : Grows (fun record : (Message.schema TxReadWriteSet).Record => record.2.1)
      ((Message.schema TxReadWriteSet).readField maxNesting) := by
    refine .readKeyed fun key => Fields.grows_tail ?_
    exact Fields.grows_repeated 2 "ns_rwset" "TxReadWriteSet" (Message.schema NsReadWriteSet) .nil maxNesting key
  obtain ⟨both, hboth, hlist⟩ := Schema.decode_append hgrows rfl hrecord hrecord'
  exact ⟨_, by rw [Message.decode, hboth, map_ok],
    (congrArg (List.map Message.ofRecord) hlist).trans List.map_append⟩

/-- The reads and the writes of sets one behind the other are those of the first and then those of the
second. -/
theorem KvRwSet.decode_append {front back : Bytes} {first second : KvRwSet}
    (hfront : Message.decode front = .ok first) (hback : Message.decode back = .ok second) :
    Message.decode (front ++ back) =
      .ok (⟨first.reads ++ second.reads, first.writes ++ second.writes⟩ : KvRwSet) := by
  obtain ⟨record, hrecord, rfl⟩ := map_eq_ok.1 hfront
  obtain ⟨record', hrecord', rfl⟩ := map_eq_ok.1 hback
  let writes : Fields := .cons 3 "writes" (Message.schema KvWrite).repeated .nil
  have hreads : Grows (fun record : (Message.schema KvRwSet).Record => record.1)
      ((Message.schema KvRwSet).readField maxNesting) := by
    refine .readKeyed fun key => ?_
    exact Fields.grows_repeated 1 "reads" "KvRwSet" (Message.schema KvRead) writes maxNesting key
  have hwrites : Grows (fun record : (Message.schema KvRwSet).Record => record.2.1)
      ((Message.schema KvRwSet).readField maxNesting) := by
    refine .readKeyed fun key => Fields.grows_tail ?_
    exact Fields.grows_repeated 3 "writes" "KvRwSet" (Message.schema KvWrite) .nil maxNesting key
  obtain ⟨both, hboth, hlist⟩ := Schema.decode_append hreads rfl hrecord hrecord'
  obtain ⟨both', hboth', hlist'⟩ := Schema.decode_append hwrites rfl hrecord hrecord'
  obtain rfl : both = both' := Except.ok.inj (hboth.symm.trans hboth')
  have heqReads := (congrArg (List.map (Message.ofRecord (α := KvRead))) hlist).trans List.map_append
  have heqWrites := (congrArg (List.map (Message.ofRecord (α := KvWrite))) hlist').trans List.map_append
  rw [Message.decode, hboth, map_ok]
  exact congrArg Except.ok (congrArg₂ KvRwSet.mk heqReads heqWrites)

namespace ReadWrites

/-! ## Namespaces one behind the other -/

theorem append_assoc (a b c : ReadWrites) : (a.append b).append c = a.append (b.append c) := by
  simp only [append, List.append_assoc]

theorem empty_append (a : ReadWrites) : append {} a = a := rfl

@[simp] theorem append_empty (a : ReadWrites) : a.append {} = a := by
  simp only [append, List.append_nil]

/-- The namespaces of two lists are read one after the other. -/
theorem ofNamespaces_append (front back : List NsReadWriteSet) :
    ofNamespaces (front ++ back) =
      ofNamespaces front >>= fun first => (ofNamespaces back).map first.append := by
  induction front with
  | nil => cases h : ofNamespaces back <;> simp [ofNamespaces, h, empty_append]
  | cons set front ih =>
    rw [List.cons_append, ofNamespaces, ofNamespaces, ih]
    cases ofNamespace set with
    | error failure => rfl
    | ok first =>
      cases ofNamespaces front with
      | error failure => rfl
      | ok rest => cases ofNamespaces back <;> simp [append_assoc]

/-- Definitions of chaincode are no reads and writes. -/
theorem ofNamespaces_lifecycle {sets : List NsReadWriteSet}
    (h : ∀ set ∈ sets, set.namespaceName = lifecycleNamespace) : ofNamespaces sets = .ok {} := by
  induction sets with
  | nil => rfl
  | cons set sets ih =>
    have hrest := ih fun other hm => h other (List.mem_cons_of_mem set hm)
    rw [ofNamespaces, ofNamespace, if_pos (h set List.mem_cons_self), hrest]
    rfl

/-! ## Results -/

theorem decode_of_message {results : Bytes} {sets : TxReadWriteSet} (h : Message.decode results = .ok sets) :
    decode results = ofNamespaces sets.nsRwset := by
  rw [decode, Layer.decode_ok h, ok_bind]

/-- **Results one behind the other are read one after the other.** -/
theorem decode_append {front back : Bytes} {first second : TxReadWriteSet}
    (hfront : Message.decode front = .ok first) (hback : Message.decode back = .ok second) :
    decode (front ++ back) = decode front >>= fun reads => (decode back).map reads.append := by
  obtain ⟨sets, hsets, happend⟩ := TxReadWriteSet.decode_append hfront hback
  rw [decode_of_message hsets, decode_of_message hfront, decode_of_message hback, happend,
    ofNamespaces_append]

/-- Between fields of results, entries of the namespace of chaincode definitions were put, at any number of
places and any number at each. -/
inductive Interspersed : Bytes → Bytes → Prop
  | same {bytes : Bytes} {sets : TxReadWriteSet} (decodes : Message.decode bytes = .ok sets) :
    Interspersed bytes bytes
  | entries {bytes : Bytes} {sets : TxReadWriteSet} (decodes : Message.decode bytes = .ok sets)
      (lifecycle : ∀ set ∈ sets.nsRwset, set.namespaceName = lifecycleNamespace) : Interspersed [] bytes
  | append {front front' back back' : Bytes} (front_put : Interspersed front front')
      (back_put : Interspersed back back') : Interspersed (front ++ back) (front' ++ back')

namespace Interspersed

variable {bytes bytes' : Bytes}

theorem decodes (h : Interspersed bytes bytes') :
    (∃ sets : TxReadWriteSet, Message.decode bytes = .ok sets) ∧
    ∃ sets : TxReadWriteSet, Message.decode bytes' = .ok sets := by
  induction h with
  | same decodes => exact ⟨⟨_, decodes⟩, _, decodes⟩
  | entries decodes _ => exact ⟨⟨{}, rfl⟩, _, decodes⟩
  | append _ _ ihFront ihBack =>
    obtain ⟨⟨_, hfront⟩, _, hfront'⟩ := ihFront
    obtain ⟨⟨_, hback⟩, _, hback'⟩ := ihBack
    obtain ⟨sets, hsets, -⟩ := TxReadWriteSet.decode_append hfront hback
    obtain ⟨sets', hsets', -⟩ := TxReadWriteSet.decode_append hfront' hback'
    exact ⟨⟨sets, hsets⟩, sets', hsets'⟩

/-- **Definitions of chaincode leave no trace**, whatever their bytes. -/
theorem decode_eq (h : Interspersed bytes bytes') : decode bytes' = decode bytes := by
  induction h with
  | same _ => rfl
  | entries decodes lifecycle =>
    rw [decode_of_message decodes, ofNamespaces_lifecycle lifecycle]
    rfl
  | append front_put back_put ihFront ihBack =>
    obtain ⟨⟨_, hfront⟩, _, hfront'⟩ := front_put.decodes
    obtain ⟨⟨_, hback⟩, _, hback'⟩ := back_put.decodes
    rw [decode_append hfront hback, decode_append hfront' hback', ihFront, ihBack]

end Interspersed

/-- Results that hold definitions of chaincode alone, with these bytes. -/
def lifecycleResults (rwsets : List Bytes) : TxReadWriteSet where
  nsRwset := rwsets.map fun rwset => ⟨lifecycleNamespace, rwset⟩

theorem interspersed_lifecycleResults {rwsets : List Bytes}
    (short : (Message.encode (lifecycleResults rwsets)).length < 2 ^ 64) :
    Interspersed [] (Message.encode (lifecycleResults rwsets)) := by
  refine .entries (Message.decode_encode (by simp [schemas]) _ short) fun set hset => ?_
  obtain ⟨rwset, -, rfl⟩ := List.mem_map.1 hset
  rfl

/-- The reads and writes of one namespace that is reported. -/
theorem decode_single {results : Bytes} {sets : TxReadWriteSet} {set : NsReadWriteSet}
    (decodes : Message.decode results = .ok sets) (nsRwset_eq : sets.nsRwset = [set])
    (reported : set.namespaceName ≠ lifecycleNamespace) :
    decode results = match Message.decode (α := KvRwSet) set.rwset with
      | .ok kv => .ok {
          reads := kv.reads.map fun read => ⟨set.namespaceName, keyText read.key,
            read.version.elim 0 (·.blockNum), read.version.elim 0 (·.txNum)⟩
          writes := kv.writes.map fun write =>
            ⟨set.namespaceName, keyText write.key, Utf8.lossy write.value, write.isDelete⟩ }
      | .error fault => .error (.malformed .kvRwSet fault) := by
  rw [decode_of_message decodes, nsRwset_eq, ofNamespaces, ofNamespace, if_neg reported, Layer.decode]
  cases Message.decode (α := KvRwSet) set.rwset with
  | error fault => rfl
  | ok kv =>
    have hreads : kv.reads.map (·.record set.namespaceName) =
        kv.reads.map fun read => ⟨set.namespaceName, keyText read.key,
          read.version.elim 0 (·.blockNum), read.version.elim 0 (·.txNum)⟩ := by
      refine List.map_congr_left fun read _ => ?_
      unfold KvRead.record
      cases read.version <;> rfl
    rw [mapError_ok, ok_bind, hreads]
    exact congrArg Except.ok (append_empty _)

/-- **What is read of results is read of their parts.** Two results one behind the other have the reads and
writes of the first and then those of the second; they fail with the failure of the first, or else with that
of the second. Definitions of chaincode may be put between any fields of either, with any bytes, and change
nothing. Of one namespace that is reported, there is a record for each read and each write, in the order of
the bytes. -/
theorem decode_homomorphic {a b : Bytes} {first second : TxReadWriteSet}
    (ha : Message.decode a = .ok first) (hb : Message.decode b = .ok second) :
    (decode (a ++ b) = match decode a, decode b with
      | .ok one, .ok two => .ok ⟨one.reads ++ two.reads, one.writes ++ two.writes⟩
      | .error failure, _ => .error failure
      | .ok _, .error failure => .error failure) ∧
    (∀ a' b', Interspersed a a' → Interspersed b b' →
      decode a' = decode a ∧ decode b' = decode b ∧ decode (a' ++ b') = decode (a ++ b)) ∧
    (∀ rwsets : List Bytes, (Message.encode (lifecycleResults rwsets)).length < 2 ^ 64 →
      Interspersed [] (Message.encode (lifecycleResults rwsets))) ∧
    (∀ set : NsReadWriteSet, first.nsRwset = [set] → set.namespaceName ≠ lifecycleNamespace →
      decode a = match Message.decode (α := KvRwSet) set.rwset with
        | .ok kv => .ok {
            reads := kv.reads.map fun read => ⟨set.namespaceName, keyText read.key,
              read.version.elim 0 (·.blockNum), read.version.elim 0 (·.txNum)⟩
            writes := kv.writes.map fun write =>
              ⟨set.namespaceName, keyText write.key, Utf8.lossy write.value, write.isDelete⟩ }
        | .error fault => .error (.malformed .kvRwSet fault)) ∧
    ∀ (front back : Bytes) (one two : KvRwSet), Message.decode front = .ok one →
      Message.decode back = .ok two →
      Message.decode (front ++ back) = .ok (⟨one.reads ++ two.reads, one.writes ++ two.writes⟩ : KvRwSet) := by
  refine ⟨?_, fun a' b' h h' => ⟨h.decode_eq, h'.decode_eq, (h.append h').decode_eq⟩,
    fun _ => interspersed_lifecycleResults, fun _ => decode_single ha, fun _ _ _ _ => KvRwSet.decode_append⟩
  rw [decode_append ha hb]
  cases decode a with
  | error failure => rfl
  | ok one => cases decode b <;> rfl

/-- The results of the sample call twice, and then results of which a namespace is cut short, with unreadable
definitions of chaincode in front of each. -/
theorem decode_homomorphic_cutShort :
    let results := Message.encode SampleSlot.results
    let cut := Message.encode CutShort.results
    let definitions := Message.encode (lifecycleResults [[0xff], []])
    Interspersed results (definitions ++ results) ∧ Interspersed cut (definitions ++ cut) ∧
    (decode (results ++ results)).map (fun sets => (sets.reads.map (·.key), sets.writes.map (·.key))) =
      .ok (["asset7", "asset8", "asset7", "asset8"], ["asset7", "asset7"]) ∧
    decode (results ++ cut) = .error (.malformed .kvRwSet CutShort.fault) ∧
    decode ((definitions ++ results) ++ (definitions ++ cut)) = .error (.malformed .kvRwSet CutShort.fault) := by
  intro results cut definitions
  have hresults := Message.decode_encode (by simp [schemas]) SampleSlot.results (by decide +kernel)
  have hcut := Message.decode_encode (by simp [schemas]) CutShort.results (by decide +kernel)
  obtain ⟨htwice, -⟩ := decode_homomorphic hresults hresults
  obtain ⟨happend, hput, hentries, -⟩ := decode_homomorphic hresults hcut
  have hdefinitions := hentries [[0xff], []] (by decide +kernel)
  have hread : decode results = .ok ⟨[⟨"basic", "asset7", 3, 1⟩, ⟨"basic", "asset8", 0, 0⟩],
      [⟨"basic", "asset7", "", true⟩]⟩ := by decide +kernel
  have hfails : decode cut = .error (.malformed .kvRwSet CutShort.fault) := by decide +kernel
  rw [hread, hfails] at happend
  have hresults' := hdefinitions.append (.same hresults)
  have hcut' := hdefinitions.append (.same hcut)
  refine ⟨hresults', hcut', ?_, happend, ((hput _ _ hresults' hcut').2.2).trans happend⟩
  rw [htwice, hread]
  rfl

end ReadWrites

end ChannelLedger
