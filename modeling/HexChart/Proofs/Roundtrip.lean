import HexChart.Graph.Document
import HexChart.Proofs.Insertion
import HexChart.Proofs.Truncation

/-!
# Decoding what was encoded

A form reads a value back if its reader reads the datum of the value and the datum leads
to the value again (`Form.ReadsBack`).  Such a form decodes every spelling of the value,
both texts that it writes among them, so each type needs one lemma about its reader.
Only counts and numbers of cells are bounded: they have to fit into 64 bits, as they do
on every board whose text is not longer than that.
-/

namespace HexChart

open HexChart.Json

/-- A spelling is all that a text says, with spaces on both sides. -/
theorem Json.Reader.Reads.whole_spelled {reader : Reader Datum} {datum : Datum}
    (hreads : reader.Reads datum) {before text after : List Char} (hbefore : Blank before)
    (htext : datum.Spelled text) (hafter : Blank after) :
    reader.whole (before ++ text ++ after) = .ok datum := by
  have hends : Ends after := by simpa using ends_append hafter ends_nil
  rw [Reader.whole, hreads before text after hbefore htext hends]
  simp [skipSpace_blank hafter, bind, Except.bind]

namespace Json.Form

variable {α : Type}

/-- Both texts of a value are decoded to it. -/
def Restores (form : Form α) (value : α) : Prop :=
  ∀ style, form.decode (form.encode style value) = .ok value

/-- The reader of a form reads the datum of a value, which leads to the value again. -/
structure ReadsBack (form : Form α) (value : α) : Prop where
  reads : form.reader.Reads (form.toDatum value)
  ofDatum?_toDatum : form.ofDatum? (form.toDatum value) = some value

namespace ReadsBack

variable {form : Form α} {value : α}

/-- Every spelling of a value is decoded to it, with spaces on both sides. -/
theorem decode_spelled (hback : form.ReadsBack value) {before text after : List Char}
    (hbefore : Blank before) (htext : (form.toDatum value).Spelled text) (hafter : Blank after) :
    form.decode (String.ofList (before ++ text ++ after)) = .ok value := by
  rw [decode, String.toList_ofList, hback.reads.whole_spelled hbefore htext hafter, Except.bind,
    ofDatum, hback.ofDatum?_toDatum]

theorem restores (hback : form.ReadsBack value) : form.Restores value := by
  intro style
  have hspelled := hback.decode_spelled blank_nil (spelled_write style 0 (form.toDatum value))
    blank_nil
  rwa [List.nil_append, List.append_nil] at hspelled

end ReadsBack

/-- Every spelling of a value, with spaces on both sides, is decoded to the value, so that
encoding again gives the compact text, which is itself one of the spellings. -/
structure Normalizes (form : Form α) (value : α) : Prop where
  spelled : (form.toDatum value).Spelled (form.encode .compact value).toList
  decode_spelled : ∀ {before text after : List Char}, Blank before →
    (form.toDatum value).Spelled text → Blank after →
      form.decode (String.ofList (before ++ text ++ after)) = .ok value
  encode_decoded : ∀ {before text after : List Char}, Blank before →
    (form.toDatum value).Spelled text → Blank after →
      (form.decode (String.ofList (before ++ text ++ after))).map (form.encode .compact) =
        .ok (form.encode .compact value)

theorem ReadsBack.normalizes {form : Form α} {value : α} (hback : form.ReadsBack value) :
    form.Normalizes value where
  spelled := by
    rw [encode, String.toList_ofList]
    exact spelled_write .compact 0 (form.toDatum value)
  decode_spelled := hback.decode_spelled
  encode_decoded hbefore htext hafter := by
    rw [hback.decode_spelled hbefore htext hafter]
    rfl

theorem readsBack_ofNames {values : List α} {name : α → String} {ofName? : String → Option α}
    {value : α} (hmem : value ∈ values) (hname : ofName? (name value) = some value) :
    (ofNames values name ofName?).ReadsBack value :=
  ⟨Reader.reads_choice (List.mem_map_of_mem hmem), hname⟩

end Json.Form

/-! ## Enumerations -/

theorem Direction.readsBack_form (direction : Direction) : form.ReadsBack direction :=
  Form.readsBack_ofNames (mem_all direction) (ofName?_name direction)

theorem Direction.follows_form (direction : Direction) :
    form.reader.Follows (form.toDatum direction) :=
  Reader.follows_choice (List.mem_map_of_mem (mem_all direction))

theorem Kind.readsBack_form (kind : Kind) : form.ReadsBack kind :=
  Form.readsBack_ofNames (mem_all kind) (ofName?_name kind)

theorem Kind.follows_form (kind : Kind) : form.reader.Follows (form.toDatum kind) :=
  Reader.follows_choice (List.mem_map_of_mem (mem_all kind))

theorem Slant.readsBack_form (slant : Slant) : form.ReadsBack slant :=
  Form.readsBack_ofNames (by cases slant <;> decide) (ofName?_name slant)

/-! ## Records -/

theorem CellRef.ofDatum?_toDatum (ref : CellRef) :
    form.ofDatum? (form.toDatum ref) = some ref := by
  simp [form, (Kind.readsBack_form ref.kind).ofDatum?_toDatum]

theorem Census.ofDatum?_toDatum (census : Census) :
    form.ofDatum? (form.toDatum census) = some census := rfl

theorem Link.ofDatum?_toDatum (name : String) (link : Link) :
    (form name).ofDatum? ((form name).toDatum link) = some link := by
  simp [form, CellRef.ofDatum?_toDatum, (Direction.readsBack_form link.direction).ofDatum?_toDatum]

theorem Graph.ofDatum?_toDatum (graph : Graph) :
    form.ofDatum? (form.toDatum graph) = some graph := by
  have hlinks : (graph.links.map Link.edgeForm.toDatum).mapM Link.edgeForm.ofDatum? =
      some graph.links := by
    induction graph.links with
    | nil => rfl
    | cons link links ih =>
      have hlink : Link.edgeForm.ofDatum? (Link.edgeForm.toDatum link) = some link :=
        Link.ofDatum?_toDatum _ link
      rw [List.map_cons, List.mapM_cons, hlink, ih]
      rfl
  simp [form, Census.ofDatum?_toDatum, hlinks]

/-- The number of the reference fits into 64 bits. -/
def CellRef.Fits (ref : CellRef) : Prop :=
  ref.index < Number.limit
  deriving Decidable

/-- Every count fits into 64 bits. -/
def Census.Fits (census : Census) : Prop :=
  ∀ kind, census.get kind < Number.limit

instance (census : Census) : Decidable census.Fits :=
  decidable_of_iff (∀ kind ∈ Kind.all, census.get kind < Number.limit)
    ⟨fun hfits kind => hfits kind kind.mem_all, fun hfits kind _ => hfits kind⟩

def Link.Fits (link : Link) : Prop :=
  link.source.Fits ∧ link.target.Fits
  deriving Decidable

/-- Every count and every number of a cell fits into 64 bits. -/
structure Graph.Fits (graph : Graph) : Prop where
  census : graph.census.Fits
  links : ∀ link ∈ graph.links, link.Fits

instance (graph : Graph) : Decidable graph.Fits :=
  decidable_of_iff (graph.census.Fits ∧ ∀ link ∈ graph.links, link.Fits)
    ⟨fun hfits => ⟨hfits.1, hfits.2⟩, fun hfits => ⟨hfits.census, hfits.links⟩⟩

theorem CellRef.follows_form {ref : CellRef} (hfits : ref.Fits) :
    form.reader.Follows (form.toDatum ref) := by
  apply Reader.follows_record "CellRef" (by decide)
  exact .cons ⟨rfl, Kind.follows_form ref.kind⟩ (.cons ⟨rfl, Reader.follows_count hfits⟩ .nil)

theorem CellRef.readsBack_form {ref : CellRef} (hfits : ref.Fits) : form.ReadsBack ref :=
  ⟨(follows_form hfits).reads, ofDatum?_toDatum ref⟩

theorem Census.follows_form {census : Census} (hfits : census.Fits) :
    form.reader.Follows (form.toDatum census) := by
  apply Reader.follows_record "KindCounts" (by decide)
  exact .cons ⟨rfl, Reader.follows_count (hfits .road)⟩
    (.cons ⟨rfl, Reader.follows_count (hfits .junction)⟩
      (.cons ⟨rfl, Reader.follows_count (hfits .tile)⟩
        (.cons ⟨rfl, Reader.follows_count (hfits .flippable)⟩
          (.cons ⟨rfl, Reader.follows_count (hfits .ocean)⟩ .nil))))

theorem Census.readsBack_form {census : Census} (hfits : census.Fits) : form.ReadsBack census :=
  ⟨(follows_form hfits).reads, ofDatum?_toDatum census⟩

theorem Link.follows_form (name : String) {link : Link} (hfits : link.Fits) :
    (form name).reader.Follows ((form name).toDatum link) := by
  apply Reader.follows_record name (by decide)
  exact .cons ⟨rfl, CellRef.follows_form hfits.1⟩
    (.cons ⟨rfl, Direction.follows_form link.direction⟩
      (.cons ⟨rfl, CellRef.follows_form hfits.2⟩ .nil))

theorem Link.readsBack_form (name : String) {link : Link} (hfits : link.Fits) :
    (form name).ReadsBack link :=
  ⟨(follows_form name hfits).reads, ofDatum?_toDatum name link⟩

theorem Graph.followsFields {graph : Graph} (hfits : graph.Fits) :
    Reader.FollowsFields
      [("name", .text), ("counts", Census.form.reader), ("edges", .list Link.edgeForm.reader)]
      [("name", .text graph.name), ("counts", Census.form.toDatum graph.census),
        ("edges", .list (graph.links.map Link.edgeForm.toDatum))] := by
  have hedges : Reader.Follows (.list Link.edgeForm.reader)
      (.list (graph.links.map Link.edgeForm.toDatum)) := by
    apply Reader.follows_list
    intro datum hmem
    obtain ⟨link, hlink, rfl⟩ := List.mem_map.mp hmem
    exact Link.follows_form _ (hfits.links link hlink)
  exact .cons ⟨rfl, Reader.follows_text graph.name⟩
    (.cons ⟨rfl, Census.follows_form hfits.census⟩ (.cons ⟨rfl, hedges⟩ .nil))

theorem Graph.readsBack_form {graph : Graph} (hfits : graph.Fits) : form.ReadsBack graph where
  reads := Reader.reads_record "BoardGraph" (by decide) (followsFields hfits).readsFields
  ofDatum?_toDatum := ofDatum?_toDatum graph

/-- A text of a graph that is broken off is not read. -/
theorem Graph.demands_form {graph : Graph} (hfits : graph.Fits) :
    form.reader.Demands (form.toDatum graph) :=
  Reader.demands_record "BoardGraph" (by decide) (followsFields hfits)

/-- The line break at the end of a document is passed over. -/
theorem Graph.decode_document {graph : Graph} (hfits : graph.Fits) :
    form.decode graph.document = .ok graph := by
  have hspelled := (readsBack_form hfits).decode_spelled blank_nil
    (spelled_write .pretty 0 (form.toDatum graph)) (blank_lineBreak .pretty 0)
  rw [List.nil_append, String.ofList_append] at hspelled
  exact hspelled

/-! ## Boards -/

namespace Board

variable {text : List Char} {board : Board}

theorem fits_census (hparse : parse text = .ok board) (hlength : text.length < Number.limit) :
    board.census.Fits := by
  intro kind
  rw [get_census hparse]
  exact Nat.lt_of_le_of_lt List.countP_le_length hlength

theorem fits_graph (hparse : parse text = .ok board) (hcensus : board.census.Fits)
    (name : String) : (board.graph name).Fits where
  census := hcensus
  links link hmem := by
    obtain ⟨hsource, htarget⟩ := ends_lt_census hparse hmem
    exact ⟨Nat.lt_trans hsource (hcensus _), Nat.lt_trans htarget (hcensus _)⟩

end Board

/-- Decoding undoes encoding: every value of each type, with counts and numbers of 64 bits
where it has any, is what both of its texts are decoded to, and the document of an
accepted chart is decoded to the graph of its board. -/
theorem forms_restore :
    (∀ direction, Direction.form.Restores direction) ∧ (∀ kind, Kind.form.Restores kind) ∧
      (∀ slant, Slant.form.Restores slant) ∧
      (∀ ref : CellRef, ref.Fits → CellRef.form.Restores ref) ∧
      (∀ census : Census, census.Fits → Census.form.Restores census) ∧
      (∀ link : Link, link.Fits →
        Link.edgeForm.Restores link ∧ Link.oneWayForm.Restores link) ∧
      (∀ graph : Graph, graph.Fits → Graph.form.Restores graph) ∧
      ∀ text board, Board.parse text = .ok board →
        (text.length < Number.limit → board.census.Fits) ∧
          (board.census.Fits → ∀ name,
            Graph.form.decode (board.graph name).document = .ok (board.graph name)) := by
  refine ⟨?_, ?_, ?_, ?_, ?_, ?_, ?_, ?_⟩
  · exact fun direction => (Direction.readsBack_form direction).restores
  · exact fun kind => (Kind.readsBack_form kind).restores
  · exact fun slant => (Slant.readsBack_form slant).restores
  · exact fun _ hfits => (CellRef.readsBack_form hfits).restores
  · exact fun _ hfits => (Census.readsBack_form hfits).restores
  · intro link hfits
    exact ⟨(Link.readsBack_form _ hfits).restores, (Link.readsBack_form _ hfits).restores⟩
  · exact fun _ hfits => (Graph.readsBack_form hfits).restores
  · intro text board hparse
    refine ⟨Board.fits_census hparse, fun hcensus name => ?_⟩
    exact Graph.decode_document (Board.fits_graph hparse hcensus name)

/-- The largest numbers of 64 bits, a name that has to be escaped, and a chart. -/
theorem forms_restore_of_large_numbers :
    CellRef.form.Restores ⟨.ocean, 0xffffffffffffffff⟩ ∧
      Census.form.Restores ⟨0xffffffffffffffff, 0, 1, 2, 0xffffffffffffffff⟩ ∧
      Link.oneWayForm.Restores ⟨⟨.ocean, 0xffffffffffffffff⟩, .clock10, ⟨.junction, 0⟩⟩ ∧
      Graph.form.Restores ⟨"\"\\\x01😀", ⟨0, 1, 0, 0, 0xffffffffffffffff⟩,
        [⟨⟨.ocean, 0xfffffffffffffffe⟩, .clock10, ⟨.junction, 0⟩⟩]⟩ ∧
      ∃ board, Board.parse ['h', '\n', '\n', '|', '\n', '.'] = .ok board ∧
        Graph.form.decode (board.graph "Corner").document = .ok (board.graph "Corner") := by
  obtain ⟨_, _, _, href, hcensus, hlink, hgraph, hboard⟩ := forms_restore
  refine ⟨href _ (by decide), hcensus _ (by decide), (hlink _ (by decide)).2,
    hgraph _ (by decide), ?_⟩
  have hparse : ∃ board, Board.parse ['h', '\n', '\n', '|', '\n', '.'] = .ok board := ⟨_, rfl⟩
  obtain ⟨board, hparse⟩ := hparse
  obtain ⟨hfits, hdecode⟩ := hboard _ board hparse
  exact ⟨board, hparse, hdecode (hfits (by decide)) "Corner"⟩

/-- Every text that says a value is decoded to it: spaces between the tokens, arrays for
records, objects for names and escapes in strings make no difference, at whatever depth
and however they are combined. -/
theorem spellings_normalized :
    (∀ direction, Direction.form.Normalizes direction) ∧ (∀ kind, Kind.form.Normalizes kind) ∧
      (∀ slant, Slant.form.Normalizes slant) ∧
      (∀ ref : CellRef, ref.Fits → CellRef.form.Normalizes ref) ∧
      (∀ census : Census, census.Fits → Census.form.Normalizes census) ∧
      (∀ link : Link, link.Fits →
        Link.edgeForm.Normalizes link ∧ Link.oneWayForm.Normalizes link) ∧
      ∀ graph : Graph, graph.Fits → Graph.form.Normalizes graph := by
  refine ⟨?_, ?_, ?_, ?_, ?_, ?_, ?_⟩
  · exact fun direction => (Direction.readsBack_form direction).normalizes
  · exact fun kind => (Kind.readsBack_form kind).normalizes
  · exact fun slant => (Slant.readsBack_form slant).normalizes
  · exact fun _ hfits => (CellRef.readsBack_form hfits).normalizes
  · exact fun _ hfits => (Census.readsBack_form hfits).normalizes
  · intro link hfits
    exact ⟨(Link.readsBack_form _ hfits).normalizes, (Link.readsBack_form _ hfits).normalizes⟩
  · exact fun _ hfits => (Graph.readsBack_form hfits).normalizes

/-- The array of a link, whose source is the object of its fields, whose kind is the object
of its name, which has a letter by its digits. -/
theorem spellings_normalized_of_nested_link :
    Link.edgeForm.decode
        " [\x7b\"kind\":\x7b\"r\\u006Fad\" :null\x7d,\"index\":7\x7d ,\"Clock2\",[\"junction\",0]]\n" =
      .ok ⟨⟨.road, 7⟩, .clock2, ⟨.junction, 0⟩⟩ := by
  have hspace : Blank [' '] := by simp [Blank, isSpace]
  have hbreak : Blank ['\n'] := by simp [Blank, isSpace]
  have hroad : SpelledString "road" ['"', 'r', '\\', 'u', '0', '0', '6', 'F', 'a', 'd', '"'] := by
    refine ⟨[['r'], ['\\', 'u', '0', '0', '6', 'F'], ['a'], ['d']], ?_, rfl⟩
    exact .cons (.plain (by decide) (by decide) (by decide)) (.cons (.unit rfl)
      (.cons (.plain (by decide) (by decide) (by decide))
        (.cons (.plain (by decide) (by decide) (by decide)) .nil)))
  have hkind : (Kind.form.toDatum .road).Spelled _ :=
    .member ⟨_, _, _, hroad, hspace, blank_nil, rfl⟩ (.part (.first blank_nil) (.close blank_nil))
  have hsource : (CellRef.form.toDatum ⟨.road, 7⟩).Spelled _ :=
    .object (.cons (spelledName_write .compact "kind")
        (.cons (spelledName_write .compact "index") .nil))
      (.cons hkind (.cons (.count 7) .nil))
      (.part (.first blank_nil) (.part (.next blank_nil blank_nil) (.close blank_nil)))
  have htarget : (CellRef.form.toDatum ⟨.junction, 0⟩).Spelled _ :=
    .array (.cons (.choice (spelledString_quoted "junction")) (.cons (.count 0) .nil))
      (.part (.first blank_nil) (.part (.next blank_nil blank_nil) (.close blank_nil)))
  have hlink : (Link.edgeForm.toDatum ⟨⟨.road, 7⟩, .clock2, ⟨.junction, 0⟩⟩).Spelled _ :=
    .array (.cons hsource (.cons (.choice (spelledString_quoted "Clock2")) (.cons htarget .nil)))
      (.part (.first blank_nil) (.part (.next hspace blank_nil)
        (.part (.next blank_nil blank_nil) (.close blank_nil))))
  obtain ⟨_, _, _, _, _, hlinks, _⟩ := spellings_normalized
  have hdecode := (hlinks _ (by decide)).1.decode_spelled hspace hlink hbreak
  rw [← hdecode]
  exact congrArg Link.edgeForm.decode (by decide +kernel)

end HexChart
