import ChannelLedger.Proofs.Bytes.Hex
import ChannelLedger.Proofs.Json.Record
import ChannelLedger.Server.Message
import ChannelLedger.Walk.Json

/-!
# Records survive their JSON form

One pair of lemmas for each record: what is written of it can be read as text (`readable`), and it is read
back from whatever stands for what is written (`survives`). Counts are natural numbers here and have 64 bits
in a text, so a record with a count comes with the condition that it `Fits`; numbers that have their width
as a type need none. A block is written as one object and read twice, as its overview and as its
transactions, and a message is read first as its kind: both only rely on finding their fields.

Main theorem `Json.records_read_back`.
-/
namespace ChannelLedger

open Json

variable {alternatives : List String} {depth : Nat}

/-! ## Histories and what they are made of -/

theorem Bytes.survives (bytes : Bytes) : Survives alternatives Bytes.toJson Bytes.ofJson? bytes := by
  intro json h
  rw [h]
  change (ofHex bytes.toHex).toOption = _
  rw [ofHex_toHex]
  rfl

namespace ReadRecord

theorem readable (r : ReadRecord) : Readable (depth + 1) r.toJson :=
  ⟨trivial, trivial, readable_nat r.blockNum.toNat_lt, readable_nat r.txNum.toNat_lt, trivial⟩

theorem survives (r : ReadRecord) : Survives alternatives toJson ofJson? r := by
  intro json h
  obtain ⟨_, hcomponents, _, _, rfl, h1, _, _, rfl, h2, _, _, rfl, h3, _, _, rfl, h4, rfl⟩ :=
    h.components? ["namespace", "key", "block_num", "tx_num"] rfl (by decide)
  simp [ofJson?, hcomponents, (survives_string _).required h1, (survives_string _).required h2,
    (survives_uint64 _).required h3, (survives_uint64 _).required h4]

end ReadRecord

namespace WriteRecord

theorem readable (w : WriteRecord) : Readable (depth + 1) w.toJson :=
  ⟨trivial, trivial, trivial, trivial, trivial⟩

theorem survives (w : WriteRecord) : Survives alternatives toJson ofJson? w := by
  intro json h
  obtain ⟨_, hcomponents, _, _, rfl, h1, _, _, rfl, h2, _, _, rfl, h3, _, _, rfl, h4, rfl⟩ :=
    h.components? ["namespace", "key", "value", "is_delete"] rfl (by decide)
  simp [ofJson?, hcomponents, (survives_string _).required h1, (survives_string _).required h2,
    (survives_string _).required h3, (survives_bool _).required h4]

end WriteRecord

namespace TransactionRecord

theorem readable (tx : TransactionRecord) : Readable (depth + 3) tx.toJson := by
  have hcode (c : UInt8) : Readable (depth + 2) (.nat c.toNat) := readable_nat (Nat.lt_trans c.toNat_lt (by decide))
  exact ⟨trivial, readable_int32 _, trivial, trivial, trivial, trivial, readable_list fun s _ => readable_string s,
    trivial, trivial, trivial, trivial, readable_list fun r _ => r.readable, readable_list fun w _ => w.readable,
    readable_optional readable_int32 _, readable_optional readable_string _, readable_optional hcode _, trivial⟩

theorem survives (tx : TransactionRecord) : Survives alternatives toJson ofJson? tx := by
  intro json h
  obtain ⟨_, hcomponents, _, _, rfl, h1, _, _, rfl, h2, _, _, rfl, h3, _, _, rfl, h4, _, _, rfl, h5, _, _, rfl, h6,
    _, _, rfl, h7, _, _, rfl, h8, _, _, rfl, h9, _, _, rfl, h10, _, _, rfl, h11, _, _, rfl, h12, _, _, rfl, h13,
    _, _, rfl, h14, _, _, rfl, h15, _, _, rfl, h16, rfl⟩ := h.components? fieldNames rfl (by decide)
  have hargs := (survives_list fun s _ => survives_string s).required h7
  have hreads := (survives_list fun r _ => r.survives).required h12
  have hwrites := (survives_list fun w _ => w.survives).required h13
  have hstatus := optional?_of_survives survives_int32 (fun _ => Json.noConfusion) h14
  have hmessage := optional?_of_survives survives_string (fun _ => Json.noConfusion) h15
  have hcode := optional?_of_survives survives_uint8 (fun _ => Json.noConfusion) h16
  rw [ofJson?, hcomponents]
  change (required string? _).bind _ = _
  rw [(survives_string _).required h1, (survives_int32 _).required h2,
    (survives_string _).required h3, (survives_string _).required h4, (survives_string _).required h5,
    (survives_string _).required h6, hargs, (survives_string _).required h8, (survives_string _).required h9,
    (survives_string _).required h10, (Bytes.survives _).required h11, hreads, hwrites, hstatus, hmessage, hcode]
  rfl

end TransactionRecord

namespace BlockOverview

/-- The count has 64 bits. -/
def Fits (b : BlockOverview) : Prop :=
  b.transactionCount < 2 ^ 64

theorem readable {b : BlockOverview} (fits : b.Fits) : Readable (depth + 1) b.toJson :=
  ⟨readable_nat b.number.toNat_lt, trivial, trivial, readable_nat fits, trivial⟩

/-- The components of an overview are read wherever they are found. -/
theorem ofComponents?_of_loosened {b : BlockOverview} (fits : b.Fits) {values : List Json}
    (h : LoosenedItems alternatives (b.toFields.map (·.2)) values) :
    ofComponents? (values.map some) = some b := by
  obtain ⟨_, _, rfl, h1, _, _, rfl, h2, _, _, rfl, h3, _, _, rfl, h4, rfl⟩ := h
  simp [ofComponents?, (survives_uint64 _).required h1, (survives_string _).required h2,
    (survives_string _).required h3, (survives_nat64 fits).required h4]

theorem survives {b : BlockOverview} (fits : b.Fits) : Survives alternatives toJson ofJson? b := by
  intro json h
  obtain ⟨_, hcomponents, hvalues⟩ := h.components? fieldNames rfl (by decide)
  rw [ofJson?, hcomponents]
  exact ofComponents?_of_loosened fits hvalues

end BlockOverview

namespace BlockRecord

def Fits (b : BlockRecord) : Prop :=
  b.overview.Fits

theorem readable {b : BlockRecord} (fits : b.Fits) : Readable (depth + 5) b.toJson :=
  ⟨readable_nat b.overview.number.toNat_lt, trivial, trivial, readable_nat fits,
    readable_list fun tx _ => tx.readable, trivial⟩

/-- A block is read as its overview and its transactions, each from the fields of both. -/
theorem survives {b : BlockRecord} (fits : b.Fits) : Survives alternatives toJson ofJson? b := by
  intro json h
  obtain ⟨fields', rfl⟩ := h.object
  have distinct : (BlockOverview.fieldNames ++ ["transactions"]).Nodup := by decide
  obtain ⟨_, hfields, _, _, rfl, htransactions, rfl⟩ := h.fieldsOf? distinct
    (List.subset_append_right b.overview.toFields _)
  obtain ⟨_, hcomponents, hvalues⟩ := h.fieldsOf? distinct (List.subset_append_left b.overview.toFields _)
  have hoverview : BlockOverview.ofJson? (.object fields') = some b.overview := by
    have hobject : (Json.object fields').components? BlockOverview.fieldNames = _ := hcomponents
    rw [BlockOverview.ofJson?, hobject]
    exact BlockOverview.ofComponents?_of_loosened fits hvalues
  have hlist := (survives_list fun tx _ => tx.survives).required htransactions
  simp only [List.map_cons, List.map_nil] at hfields
  simp [ofJson?, hfields, hoverview, hlist]

end BlockRecord

namespace ChannelHistory

/-- The counts have 64 bits. -/
structure Fits (h : ChannelHistory) : Prop where
  total : h.transactionTotal < 2 ^ 64
  blocks : ∀ b ∈ h.blocks, b.Fits
  overviews : ∀ b ∈ h.overviews, b.Fits

theorem readable {h : ChannelHistory} (fits : h.Fits) : Readable (depth + 7) h.toJson :=
  ⟨readable_nat h.height.toNat_lt, readable_nat fits.total,
    readable_list fun b hm => BlockRecord.readable (fits.blocks b hm), readable_list fun tx _ => tx.readable,
    readable_list fun b hm => BlockOverview.readable (fits.overviews b hm), trivial⟩

theorem survives {h : ChannelHistory} (fits : h.Fits) : Survives alternatives toJson ofJson? h := by
  intro json hjson
  obtain ⟨_, hcomponents, _, _, rfl, h1, _, _, rfl, h2, _, _, rfl, h3, _, _, rfl, h4, _, _, rfl, h5, rfl⟩ :=
    hjson.components? ["block_height", "transaction_total", "blocks", "transactions", "block_basics"] rfl (by decide)
  have hblocks := (survives_list fun b hm => BlockRecord.survives (fits.blocks b hm)).required h3
  have htransactions := (survives_list fun tx _ => tx.survives).required h4
  have hoverviews := (survives_list fun b hm => BlockOverview.survives (fits.overviews b hm)).required h5
  simp [ofJson?, hcomponents, (survives_uint64 _).required h1, (survives_nat64 fits.total).required h2, hblocks,
    htransactions, hoverviews]

end ChannelHistory

/-! ## Tips and stop rules -/

namespace ChainTip

theorem readable (tip : ChainTip) : Readable (depth + 1) tip.toJson :=
  ⟨readable_nat tip.height.toNat_lt, trivial, trivial, trivial⟩

theorem survives (tip : ChainTip) : Survives alternatives toJson ofJson? tip := by
  intro json h
  obtain ⟨_, hcomponents, _, _, rfl, h1, _, _, rfl, h2, _, _, rfl, h3, rfl⟩ :=
    h.components? ["height", "current_block_hash", "previous_block_hash"] rfl (by decide)
  simp [ofJson?, hcomponents, (survives_uint64 _).required h1, (Bytes.survives _).required h2,
    (Bytes.survives _).required h3]

end ChainTip

namespace StopRule

/-- The names of the kinds. -/
def kindNames : List String :=
  ["BlockCountLimit", "TargetPreviousHash", "TargetBlockNumber"]

theorem readable (rule : StopRule) : Readable (depth + 2) rule.toJson := by
  cases rule with
  | blockCount limit => exact ⟨⟨readable_nat limit.toNat_lt, trivial⟩, trivial⟩
  | hash target => exact ⟨⟨trivial, trivial⟩, trivial⟩
  | number target => exact ⟨⟨readable_nat target.toNat_lt, trivial⟩, trivial⟩

/-- The object of an alternative stands for itself alone, but for what is in its field. -/
theorem field_of_loosened {name : String} {value json : Json} (named : name ∈ kindNames)
    (h : Loosened kindNames (.object [(name, value)]) json) :
    ∃ value', json = .object [(name, value')] ∧ Loosened kindNames value value' := by
  obtain ⟨known, others, fields', rfl, hperm, ⟨value', _, rfl, hvalue, rfl⟩, -, hnone⟩ := h
  rw [hnone ⟨(name, value), List.mem_cons_self, named⟩, List.append_nil] at hperm
  exact ⟨value', by rw [List.perm_singleton.1 hperm], hvalue⟩

theorem survives (rule : StopRule) : Survives kindNames toJson ofJson? rule := by
  intro json h
  obtain ⟨_, hcomponents, stop, _, rfl, hstop, rfl⟩ := h.components? ["stop"] rfl (by decide)
  have hkind : ofKind? stop = some rule := by
    cases rule with
    | blockCount limit =>
      obtain ⟨value, rfl, hvalue⟩ := field_of_loosened (by decide) hstop
      simp [ofKind?, survives_uint64 limit value hvalue]
    | hash target =>
      obtain ⟨value, rfl, hvalue⟩ := field_of_loosened (by decide) hstop
      simp [ofKind?, Bytes.survives target value hvalue]
    | number target =>
      obtain ⟨value, rfl, hvalue⟩ := field_of_loosened (by decide) hstop
      simp [ofKind?, survives_uint64 target value hvalue]
  simp [ofJson?, hcomponents, required, hkind]

end StopRule

namespace NumericStopRule

theorem readable (form : NumericStopRule) : Readable (depth + 1) form.toJson :=
  ⟨readable_int32 _, readable_nat form.blockCount.toNat_lt, trivial, readable_nat form.number.toNat_lt, trivial⟩

theorem survives (form : NumericStopRule) : Survives alternatives toJson ofJson? form := by
  intro json h
  obtain ⟨_, hcomponents, v1, _, rfl, h1, v2, _, rfl, h2, v3, _, rfl, h3, v4, _, rfl, h4, rfl⟩ :=
    h.components? fieldNames rfl (by decide)
  obtain ⟨fields', rfl⟩ := h.object
  have hread : components? (.object fields') = _ := hcomponents
  simp [ofJson?, hread, withDefault, survives_int32 _ v1 h1, survives_uint64 _ v2 h2, survives_string _ v3 h3,
    survives_uint64 _ v4 h4]

end NumericStopRule

/-! ## Dashboards -/

namespace ChannelStats

/-- The counts have 64 bits. -/
structure Fits (s : ChannelStats) : Prop where
  blocksLoaded : s.blocksLoaded < 2 ^ 64
  transactionsLoaded : s.transactionsLoaded < 2 ^ 64
  valid : s.valid < 2 ^ 64
  invalid : s.invalid < 2 ^ 64

theorem readable {s : ChannelStats} (fits : s.Fits) : Readable (depth + 1) s.toJson := by
  exact ⟨readable_nat s.height.toNat_lt, readable_nat fits.blocksLoaded, readable_nat fits.transactionsLoaded,
    readable_nat fits.valid, readable_nat fits.invalid, readable_optional readable_string _, readable_string _,
    trivial⟩

theorem survives {s : ChannelStats} (fits : s.Fits) : Survives alternatives toJson ofJson? s := by
  intro json h
  obtain ⟨_, hcomponents, _, _, rfl, h1, _, _, rfl, h2, _, _, rfl, h3, _, _, rfl, h4, _, _, rfl, h5, _, _, rfl, h6,
    _, _, rfl, h7, rfl⟩ := h.components? fieldNames rfl (by decide)
  have hchannel := optional?_of_survives survives_string (fun _ => Json.noConfusion) h6
  simp [ofJson?, hcomponents, (survives_uint64 _).required h1, (survives_nat64 fits.blocksLoaded).required h2,
    (survives_nat64 fits.transactionsLoaded).required h3, (survives_nat64 fits.valid).required h4,
    (survives_nat64 fits.invalid).required h5, hchannel, (survives_string _).required h7]

end ChannelStats

namespace BlockRow

/-- The count has 64 bits. -/
def Fits (row : BlockRow) : Prop :=
  row.transactionCount < 2 ^ 64

theorem readable {row : BlockRow} (fits : row.Fits) : Readable (depth + 1) row.toJson := by
  exact ⟨readable_nat row.number.toNat_lt, readable_string _, readable_string _, readable_nat fits,
    readable_optional readable_string _, trivial⟩

theorem survives {row : BlockRow} (fits : row.Fits) : Survives alternatives toJson ofJson? row := by
  intro json h
  obtain ⟨_, hcomponents, _, _, rfl, h1, _, _, rfl, h2, _, _, rfl, h3, _, _, rfl, h4, _, _, rfl, h5, rfl⟩ :=
    h.components? ["number", "hash", "previous_hash", "transaction_count", "created_at"] rfl (by decide)
  have hcreated := optional?_of_survives survives_string (fun _ => Json.noConfusion) h5
  simp [ofJson?, hcomponents, (survives_uint64 _).required h1, (survives_string _).required h2,
    (survives_string _).required h3, (survives_nat64 fits).required h4, hcreated]

end BlockRow

namespace Dashboard

/-- The counts have 64 bits. -/
structure Fits (d : Dashboard) : Prop where
  stats : d.stats.Fits
  recentBlocks : ∀ row ∈ d.recentBlocks, row.Fits

theorem readable {d : Dashboard} (fits : d.Fits) : Readable (depth + 3) d.toJson :=
  ⟨ChannelStats.readable fits.stats, readable_list fun row hm => BlockRow.readable (fits.recentBlocks row hm),
    readable_nat d.lastUpdated.toNat_lt, trivial⟩

theorem survives {d : Dashboard} (fits : d.Fits) : Survives alternatives toJson ofJson? d := by
  intro json h
  obtain ⟨_, hcomponents, _, _, rfl, h1, _, _, rfl, h2, _, _, rfl, h3, rfl⟩ :=
    h.components? ["chain_stats", "recent_blocks", "last_updated"] rfl (by decide)
  have hrows := (survives_list fun row hm => BlockRow.survives (fits.recentBlocks row hm)).required h2
  simp [ofJson?, hcomponents, (ChannelStats.survives fits.stats).required h1, hrows,
    (survives_uint64 _).required h3]

end Dashboard

/-! ## Messages -/

namespace SocketMessage

/-- The counts of what the message carries have 64 bits. -/
def Fits : SocketMessage → Prop
  | .dashboard data => data.Fits
  | .block record => record.Fits
  | _ => True

theorem readable {message : SocketMessage} (fits : message.Fits) : Readable (depth + 6) message.toJson := by
  cases message with
  | getDashboard | ping | pong => exact ⟨readable_string _, trivial⟩
  | getTransaction text | error text => exact ⟨readable_string _, readable_string _, trivial⟩
  | getBlock number => exact ⟨readable_string _, readable_nat number.toNat_lt, trivial⟩
  | dashboard data => exact ⟨readable_string _, Dashboard.readable fits, trivial⟩
  | block record => exact ⟨readable_string _, BlockRecord.readable fits, trivial⟩
  | transaction record => exact ⟨readable_string _, record.readable, trivial⟩

/-- The one component of a kind is found beside the kind. -/
theorem one_of_loosened {α : Type} {write : α → Json} {read : Json → Option α} {a : α} {kind name : String}
    {fields' : List (String × Json)} (survives : Survives alternatives write read a) (distinct : "type" ≠ name)
    (h : Loosened alternatives (.object [("type", .string kind), (name, write a)]) (.object fields'))
    (message : α → SocketMessage) : ofParts?.one (.object fields') name read message = some (message a) := by
  obtain ⟨_, hfields, _, _, rfl, hvalue, rfl⟩ := h.fieldsOf? (by simpa using distinct) (List.subset_cons_self _ _)
  have hcomponents : (Json.object fields').components? [name] = _ := hfields
  simp [ofParts?.one, hcomponents, survives.required hvalue]

/-- Beside the name of a message's kind are the components of that kind. -/
theorem ofParts?_of_loosened {message : SocketMessage} (fits : message.Fits) {fields' : List (String × Json)}
    (h : Loosened alternatives message.toJson (.object fields')) :
    ofParts? message.kind (.object fields') = some message := by
  cases message with
  | getDashboard | ping | pong => rfl
  | dashboard data => exact one_of_loosened (Dashboard.survives fits) (by decide) h _
  | getBlock number => exact one_of_loosened (survives_uint64 number) (by decide) h _
  | block record => exact one_of_loosened (BlockRecord.survives fits) (by decide) h _
  | getTransaction txId => exact one_of_loosened (survives_string txId) (by decide) h _
  | transaction record => exact one_of_loosened record.survives (by decide) h _
  | error text => exact one_of_loosened (survives_string text) (by decide) h _

theorem names_nodup (message : SocketMessage) :
    ((("type", Json.string message.kind) :: message.components).map (·.1)).Nodup := by
  cases message <;> simp [components]

theorem survives {message : SocketMessage} (fits : message.Fits) : Survives alternatives toJson ofJson? message := by
  intro json h
  obtain ⟨fields', rfl⟩ := h.object
  obtain ⟨_, hfields, _, _, rfl, hkind, rfl⟩ := h.fieldsOf? (names_nodup message)
    (List.cons_subset_cons ("type", .string message.kind) (List.nil_subset message.components))
  rw [hkind] at hfields
  rw [ofJson?]
  simp only [List.map_cons, List.map_nil] at hfields
  simp [hfields, ofParts?_of_loosened fits h]

end SocketMessage

/-! ## Texts -/

/-- A value is read back from its own texts, and from those of whatever stands for it and can be read. -/
def Json.ReadsBack {α : Type} (write : α → Json) (read : Json → Option α) (a : α) : Prop :=
  (∀ text, TextOf (write a) text → (parse? text).bind read = some a) ∧
  ∀ json text, Loosened StopRule.kindNames (write a) json → Readable maxDepth json → TextOf json text →
    (parse? text).bind read = some a

theorem Json.Survives.readsBack {α : Type} {write : α → Json} {read : Json → Option α} {a : α}
    (h : Survives StopRule.kindNames write read a) (readable : Readable maxDepth (write a)) :
    ReadsBack write read a := by
  have hloosened : ∀ json text, Loosened StopRule.kindNames (write a) json → Readable maxDepth json →
      TextOf json text → (parse? text).bind read = some a := by
    intro json text hjson hreadable htext
    rw [htext.parse? hreadable, Option.bind_some, h json hjson]
  exact ⟨fun text => hloosened _ text (Loosened.refl _) readable, hloosened⟩

/-- **Every record is read back from its JSON text**, be it on one line or over several, whatever the order
of the fields in it and whatever other fields stand among them. -/
theorem Json.records_read_back :
    (∀ tip, ReadsBack ChainTip.toJson ChainTip.ofJson? tip) ∧
    (∀ rule, ReadsBack StopRule.toJson StopRule.ofJson? rule) ∧
    (∀ form, ReadsBack NumericStopRule.toJson NumericStopRule.ofJson? form) ∧
    (∀ read, ReadsBack ReadRecord.toJson ReadRecord.ofJson? read) ∧
    (∀ write, ReadsBack WriteRecord.toJson WriteRecord.ofJson? write) ∧
    (∀ tx, ReadsBack TransactionRecord.toJson TransactionRecord.ofJson? tx) ∧
    (∀ block : BlockRecord, block.Fits → ReadsBack BlockRecord.toJson BlockRecord.ofJson? block) ∧
    (∀ history : ChannelHistory, history.Fits → ReadsBack ChannelHistory.toJson ChannelHistory.ofJson? history) ∧
    (∀ data : Dashboard, data.Fits → ReadsBack Dashboard.toJson Dashboard.ofJson? data) ∧
    ∀ message : SocketMessage, message.Fits → ReadsBack SocketMessage.toJson SocketMessage.ofJson? message := by
  refine ⟨fun tip => ?_, fun rule => ?_, fun form => ?_, fun read => ?_, fun write => ?_, fun tx => ?_,
    fun block fits => ?_, fun history fits => ?_, fun data fits => ?_, fun message fits => ?_⟩
  · exact tip.survives.readsBack tip.readable
  · exact rule.survives.readsBack rule.readable
  · exact form.survives.readsBack form.readable
  · exact read.survives.readsBack read.readable
  · exact write.survives.readsBack write.readable
  · exact tx.survives.readsBack tx.readable
  · exact (BlockRecord.survives fits).readsBack (BlockRecord.readable fits)
  · exact (ChannelHistory.survives fits).readsBack (ChannelHistory.readable fits)
  · exact (Dashboard.survives fits).readsBack (Dashboard.readable fits)
  · exact (SocketMessage.survives fits).readsBack (SocketMessage.readable fits)

/-- A block with the greatest number, a hash of characters that are escaped and one beyond the first plane. -/
def BlockRecord.extreme : BlockRecord where
  overview := {
    number := 0xffffffffffffffff
    blockHash := "\x00\"\\\n"
    previousHash := "é😀"
    transactionCount := 0xffffffffffffffff }
  transactions := []

/-- The fields of that block the other way round, behind one that no block has. -/
def BlockRecord.extremeJson : Json := .object [
  ("extra", .object [("number", .real "1.5")]), ("transactions", .array []),
  ("transaction_count", .nat 0xffffffffffffffff), ("previous_hash", .string "é😀"),
  ("block_hash", .string "\x00\"\\\n"), ("number", .nat 0xffffffffffffffff)]

/-- A message about that block, the other way round as well. -/
def BlockRecord.extremeMessage : Json := .object [
  ("extra", .null), ("block", extremeJson), ("type", .string "BlockDetail")]

/-- A history of that block. -/
def ChannelHistory.extreme : ChannelHistory where
  height := 0xffffffffffffffff
  transactionTotal := 0xffffffffffffffff
  blocks := [.extreme]
  overviews := [BlockRecord.extreme.overview]

theorem Json.records_read_back_extreme : ChannelHistory.extreme.Fits ∧
    (Dashboard.ofHistory .extreme "SHA2" 0).Fits ∧
    Loosened StopRule.kindNames (SocketMessage.block .extreme).toJson BlockRecord.extremeMessage ∧
    Readable maxDepth BlockRecord.extremeMessage ∧
    (parse? ChannelHistory.extreme.toJson.print).bind ChannelHistory.ofJson? = some .extreme ∧
    (parse? ((Dashboard.ofHistory .extreme "SHA2" 0).toJson.pretty 0)).bind Dashboard.ofJson? =
      some (.ofHistory .extreme "SHA2" 0) ∧
    SocketMessage.ofText? BlockRecord.extremeMessage.print = some (.block .extreme) ∧
    SocketMessage.ofText? (BlockRecord.extremeMessage.pretty 0) = some (.block .extreme) := by
  have hcount : 0xffffffffffffffff < 2 ^ 64 := by decide
  have hhistory : ChannelHistory.extreme.Fits :=
    ⟨hcount, List.forall_mem_singleton.2 hcount, List.forall_mem_singleton.2 hcount⟩
  have hdashboard : (Dashboard.ofHistory .extreme "SHA2" 0).Fits :=
    ⟨⟨by decide, hcount, by decide, by decide⟩, List.forall_mem_singleton.2 hcount⟩
  have hblock : Loosened StopRule.kindNames BlockRecord.extreme.toJson BlockRecord.extremeJson := by
    refine ⟨BlockRecord.extreme.overview.toFields ++ [("transactions", .array [])],
      [("extra", .object [("number", .real "1.5")])], _, rfl, ?_, LoosenedFields.refl _, by decide, by decide⟩
    exact List.reverse_perm (_ :: _ :: _ :: _ :: _ :: [_])
  have hmessage : Loosened StopRule.kindNames (SocketMessage.block .extreme).toJson BlockRecord.extremeMessage := by
    refine ⟨[("type", .string "BlockDetail"), ("block", BlockRecord.extremeJson)], [("extra", .null)], _, rfl, ?_,
      ⟨_, _, rfl, rfl, _, _, rfl, hblock, rfl⟩, by decide, by decide⟩
    exact List.reverse_perm (_ :: _ :: [_])
  have hreadable : Readable maxDepth BlockRecord.extremeMessage :=
    ⟨trivial, ⟨⟨rfl, trivial⟩, trivial, readable_nat (by decide), trivial, trivial, readable_nat (by decide), trivial⟩,
      trivial, trivial⟩
  obtain ⟨-, -, -, -, -, -, -, histories, dashboards, messages⟩ := records_read_back
  obtain ⟨-, hread⟩ := messages (.block .extreme) hcount
  exact ⟨hhistory, hdashboard, hmessage, hreadable, (histories _ hhistory).1 _ .compact,
    (dashboards _ hdashboard).1 _ .laidOut, hread _ _ hmessage hreadable .compact,
    hread _ _ hmessage hreadable .laidOut⟩

end ChannelLedger
