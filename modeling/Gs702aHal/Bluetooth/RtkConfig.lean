import Gs702aHal.Bluetooth.Hci

set_option relaxedAutoImplicit false
set_option autoImplicit false

/-!
# The configuration file of the Realtek controller

The file has a signature, the length of what follows, and entries: an offset into the controller's
settings, a length and the octets for it. `rtk_parse_config_file` goes through the entries and takes
the speed of the serial port and its flow control from the entry with the offset `0xc`. It does not
look whether an entry ends in the file; a file for which it reads behind the end has no result
here.

## Main definitions

* `Bluetooth.Rtk.rtk_parse_config_file` — what the parser finds.
* `Bluetooth.Rtk.rtk_speed_to_uart_speed`, `Bluetooth.Rtk.uart_speed_to_rtk_speed` — the table of
  speeds, both ways.
* `Bluetooth.Rtk.encodeConfig` — the file of a list of entries.

## Main results

* `Bluetooth.Rtk.rtk_parse_encodeConfig` — the entries of a file are read back, the last one counts.
* `Bluetooth.Rtk.rtk_parse_config_file_of_header` — what a file with another header gives.
* `Bluetooth.Rtk.rtk_speed_uart_speed` — the speeds of the table are translated back.
-/

namespace Bluetooth.Rtk

/-- `RTK_VENDOR_CONFIG_MAGIC`. -/
def RTK_VENDOR_CONFIG_MAGIC : BitVec 32 := 0x8723ab55

/-! ### The parser -/

/-- A number of `n` octets in a buffer. There is none that ends behind it. -/
def numberAt (n : ℕ) (buf : List Byte) (i : ℕ) : Option ℕ :=
  if i + n ≤ buf.length then some (Octets.value ((buf.drop i).take n)) else none

/-- What the parser finds: the speed, and `gHwFlowControlEnable`. -/
structure Found where
  baudrate : BitVec 32
  gHwFlowControlEnable : Bool
  deriving DecidableEq, Repr

/-- An entry that starts in the octet `i` after the header. The octet `12` of the entry with the
offset `0xc` is read for the log message, too, if the entry is shorter. -/
def parseEntry (buf : List Byte) (i : ℕ) (found : Found) : Option (ℕ × Found) := do
  let offset ← numberAt 2 buf (6 + i)
  let entry_len ← numberAt 1 buf (6 + i + 2)
  if offset = 0xc then
    let baudrate ← numberAt 4 buf (6 + i + 3)
    let octet ← buf[6 + i + 3 + 12]?
    return (entry_len + 3, ⟨BitVec.ofNat 32 baudrate,
      if 12 ≤ entry_len then octet &&& 0x4 != 0 else found.gHwFlowControlEnable⟩)
  else
    return (entry_len + 3, found)

/-- The loop over the entries. It goes on by three octets at least, so that its fuel lasts. -/
def parseEntries (buf : List Byte) (config_len : ℕ) : ℕ → ℕ → Found → Option Found
  | 0, _, _ => none
  | fuel + 1, i, found =>
    if i < config_len then do
      let (temp, found) ← parseEntry buf i found
      parseEntries buf config_len fuel (i + temp) found
    else some found

/-- `rtk_parse_config_file`. The flow control stays as it was if no entry sets it. -/
def rtk_parse_config_file (config_buf : List Byte) (flow : Bool) : Option Found := do
  let config_len ← numberAt 2 config_buf 4
  let signature ← numberAt 4 config_buf 0
  if signature ≠ RTK_VENDOR_CONFIG_MAGIC.toNat then return ⟨0, flow⟩
  else if config_len ≠ config_buf.length - 6 then return ⟨0, flow⟩
  else parseEntries config_buf config_len (config_len + 1) 0 ⟨0, flow⟩

/-! ### Speeds -/

/-- `baudrates`: the speeds of the controller and of the serial port. -/
def baudrates : List (BitVec 32 × BitVec 32) :=
  [(0x00006004, 921600), (0x05F75004, 921600), (0x00004003, 1500000), (0x04928002, 1500000),
    (0x00005002, 2000000), (0x00008001, 3000000), (0x04928001, 3000000), (0x00007001, 3500000),
    (0x052A6001, 3500000), (0x00005001, 4000000), (0x0000701d, 115200), (0x0252C002, 115200)]

/-- `rtk_speed_to_uart_speed`. -/
def rtk_speed_to_uart_speed (rtk_speed : BitVec 32) : BitVec 32 :=
  ((baudrates.find? fun b => b.1 == rtk_speed).map Prod.snd).getD 115200

/-- `uart_speed_to_rtk_speed`. -/
def uart_speed_to_rtk_speed (uart_speed : BitVec 32) : BitVec 32 :=
  ((baudrates.find? fun b => b.2 == uart_speed).map Prod.fst).getD 0x701D

/-- The speeds of the table are translated back; any other one becomes `115200`. -/
lemma rtk_speed_uart_speed (uart_speed : BitVec 32) :
    rtk_speed_to_uart_speed (uart_speed_to_rtk_speed uart_speed) =
      if uart_speed ∈ baudrates.map Prod.snd then uart_speed else 115200 := by
  by_cases hmem : uart_speed ∈ baudrates.map Prod.snd
  · rw [if_pos hmem]
    simp only [baudrates, List.map_cons, List.map_nil, List.mem_cons, List.not_mem_nil,
      or_false] at hmem
    rcases hmem with rfl | rfl | rfl | rfl | rfl | rfl | rfl | rfl | rfl | rfl | rfl | rfl <;> rfl
  · have hnone : (baudrates.find? fun b => b.2 == uart_speed) = none := by
      rw [List.find?_eq_none]
      intro b hb hspeed
      exact hmem (List.mem_map.mpr ⟨b, hb, by simpa using hspeed⟩)
    rw [if_neg hmem, uart_speed_to_rtk_speed, hnone]
    rfl

/-! ### Files -/

/-- An entry of a file. -/
structure ConfigEntry where
  offset : BitVec 16
  entry_data : List Byte
  len_lt : entry_data.length < 256

/-- The octets of an entry. -/
def ConfigEntry.encode (e : ConfigEntry) : List Byte :=
  UINT16_TO_STREAM e.offset ++ (BitVec.ofNat 8 e.entry_data.length :: e.entry_data)

/-- The parser reads the octet `12` of the entry with the offset `0xc`, which is there. -/
def ConfigEntry.Readable (e : ConfigEntry) : Prop := e.offset = 0xc → 12 < e.entry_data.length

instance (e : ConfigEntry) : Decidable e.Readable :=
  inferInstanceAs (Decidable (e.offset = 0xc → 12 < e.entry_data.length))

/-- What an entry sets. -/
def ConfigEntry.apply (found : Found) (e : ConfigEntry) : Found :=
  if e.offset = 0xc then
    ⟨BitVec.ofNat 32 (Octets.value (e.entry_data.take 4)),
      ((e.entry_data[12]?).getD 0) &&& 0x4 != 0⟩
  else found

/-- The octets of the entries. -/
def encodeEntries (entries : List ConfigEntry) : List Byte := entries.flatMap ConfigEntry.encode

/-- The file of a list of entries. -/
def encodeConfig (entries : List ConfigEntry) : List Byte :=
  UINT32_TO_STREAM RTK_VENDOR_CONFIG_MAGIC ++
    UINT16_TO_STREAM (BitVec.ofNat 16 (encodeEntries entries).length) ++ encodeEntries entries

/-! ### Reading a file back -/

/-- Octets that stand in the buffer at a place are read from there. -/
lemma numberAt_append {n i : ℕ} {pre mid post : List Byte} (hi : i = pre.length)
    (hn : mid.length = n) : numberAt n (pre ++ (mid ++ post)) i = some (Octets.value mid) := by
  subst hi hn
  rw [numberAt, if_pos (by simp), List.drop_left, List.take_left]

/-- Octets at the beginning of the buffer are read from there. -/
lemma numberAt_zero {n : ℕ} {mid post : List Byte} (hn : mid.length = n) :
    numberAt n (mid ++ post) 0 = some (Octets.value mid) :=
  numberAt_append (Eq.refl ([] : List Byte).length) hn

/-- An octet that stands in the buffer at a place is read from there. -/
lemma getElem?_of_append {i j : ℕ} {pre mid post : List Byte} (hi : i = pre.length + j)
    (hj : j < mid.length) : (pre ++ (mid ++ post))[i]? = mid[j]? := by
  subst hi
  rw [List.getElem?_append_right (by omega), Nat.add_sub_cancel_left,
    List.getElem?_append_left hj]

/-- An entry takes its data and three octets. -/
lemma ConfigEntry.length_encode (e : ConfigEntry) : e.encode.length = e.entry_data.length + 3 := by
  simp [ConfigEntry.encode, UINT16_TO_STREAM]

/-- **An entry is read back.** -/
lemma parseEntry_encode {pre post : List Byte} {i : ℕ} (hi : pre.length = 6 + i)
    {e : ConfigEntry} (he : e.Readable) (found : Found) :
    parseEntry (pre ++ (e.encode ++ post)) i found = some (e.encode.length, e.apply found) := by
  have hsplit : pre ++ (e.encode ++ post) =
      pre ++ (UINT16_TO_STREAM e.offset ++
        (BitVec.ofNat 8 e.entry_data.length :: (e.entry_data ++ post))) := by
    simp [ConfigEntry.encode]
  have hoffset : numberAt 2 (pre ++ (e.encode ++ post)) (6 + i) = some e.offset.toNat := by
    rw [hsplit, numberAt_append (n := 2) hi.symm (by rfl), UINT16_TO_STREAM_eq,
      Octets.value_ofNat_toNat (by rfl)]
  have hlen : numberAt 1 (pre ++ (e.encode ++ post)) (6 + i + 2) =
      some e.entry_data.length := by
    have hpre : pre ++ (e.encode ++ post) = (pre ++ UINT16_TO_STREAM e.offset) ++
        ([BitVec.ofNat 8 e.entry_data.length] ++ (e.entry_data ++ post)) := by
      simp [ConfigEntry.encode]
    have hplace : 6 + i + 2 = (pre ++ UINT16_TO_STREAM e.offset).length := by
      simp [hi, UINT16_TO_STREAM]
    rw [hpre, numberAt_append (n := 1) hplace (by rfl)]
    simp [Octets.value, Nat.mod_eq_of_lt e.len_lt]
  have hdata : pre ++ (e.encode ++ post) =
      (pre ++ (UINT16_TO_STREAM e.offset ++ [BitVec.ofNat 8 e.entry_data.length])) ++
        (e.entry_data ++ post) := by
    simp [ConfigEntry.encode]
  have hplace : (pre ++ (UINT16_TO_STREAM e.offset ++
      [BitVec.ofNat 8 e.entry_data.length])).length = 6 + i + 3 := by
    simp [hi, UINT16_TO_STREAM]
  simp only [parseEntry, hoffset, hlen, Option.bind_eq_bind, Option.bind_some]
  by_cases hc : e.offset = 0xc
  · have hlong := he hc
    have hcut : e.entry_data ++ post =
        e.entry_data.take 4 ++ (e.entry_data.drop 4 ++ post) := by
      rw [← List.append_assoc, List.take_append_drop]
    have hbaud : numberAt 4 (pre ++ (e.encode ++ post)) (6 + i + 3) =
        some (Octets.value (e.entry_data.take 4)) := by
      rw [hdata, hcut, numberAt_append hplace.symm (by rw [List.length_take]; omega)]
    have hoctet : (pre ++ (e.encode ++ post))[6 + i + 3 + 12]? =
        some ((e.entry_data[12]?).getD 0) := by
      rw [hdata, getElem?_of_append (by rw [hplace]) hlong, List.getElem?_eq_getElem hlong]
      rfl
    have hnat : e.offset.toNat = 0xc := by rw [hc]; rfl
    rw [if_pos hnat, hbaud, hoctet]
    simp only [Option.bind_some, Option.pure_def]
    rw [if_pos (by omega), ConfigEntry.apply, if_pos hc, e.length_encode]
  · have hnat : e.offset.toNat ≠ 0xc := by
      intro h
      exact hc (BitVec.eq_of_toNat_eq h)
    rw [if_neg hnat, ConfigEntry.apply, if_neg hc, e.length_encode]
    rfl

/-- The loop reads the entries back. -/
lemma parseEntries_encode {config_len : ℕ} (entries : List ConfigEntry)
    (he : ∀ e ∈ entries, e.Readable) {pre : List Byte} {i fuel : ℕ} (hi : pre.length = 6 + i)
    (hlen : config_len = i + (encodeEntries entries).length)
    (hfuel : (encodeEntries entries).length < fuel) (found : Found) :
    parseEntries (pre ++ encodeEntries entries) config_len fuel i found =
      some (entries.foldl (fun found e => e.apply found) found) := by
  induction entries generalizing pre i fuel found with
  | nil =>
    obtain ⟨fuel, rfl⟩ : ∃ n, fuel = n + 1 := ⟨fuel - 1, by omega⟩
    simp only [encodeEntries, List.flatMap_nil, List.length_nil] at hlen ⊢
    rw [parseEntries, if_neg (by omega)]
    rfl
  | cons e entries ih =>
    have hcons : encodeEntries (e :: entries) = e.encode ++ encodeEntries entries := rfl
    have hlength : (encodeEntries (e :: entries)).length =
        e.encode.length + (encodeEntries entries).length := by rw [hcons, List.length_append]
    have hthree := e.length_encode
    obtain ⟨fuel, rfl⟩ : ∃ n, fuel = n + 1 := ⟨fuel - 1, by omega⟩
    rw [parseEntries, if_pos (by omega), hcons,
      parseEntry_encode hi (he e List.mem_cons_self), Option.bind_eq_bind, Option.bind_some,
      List.foldl_cons, ← List.append_assoc]
    apply ih (fun e' he' => he e' (List.mem_cons_of_mem e he'))
    · rw [List.length_append, hi]
      omega
    · omega
    · omega

/-- The header of a file gives the signature and the length of the entries. -/
lemma numberAt_encodeConfig {entries : List ConfigEntry}
    (hlen : (encodeEntries entries).length < 2 ^ 16) :
    numberAt 4 (encodeConfig entries) 0 = some RTK_VENDOR_CONFIG_MAGIC.toNat ∧
      numberAt 2 (encodeConfig entries) 4 = some (encodeEntries entries).length := by
  constructor
  · rw [encodeConfig, List.append_assoc, numberAt_zero (n := 4) (by rfl), UINT32_TO_STREAM_eq,
      Octets.value_ofNat_toNat (by rfl)]
  · rw [encodeConfig, List.append_assoc, numberAt_append (n := 2) (by rfl) (by rfl),
      UINT16_TO_STREAM_eq, Octets.value_ofNat_toNat (by rfl), BitVec.toNat_ofNat,
      Nat.mod_eq_of_lt hlen]

/-- **The entries of a file are read back**: the parser finds what the last entry with the offset
`0xc` sets, and the speed zero if there is none.

**Proof sketch.** The header is right, so that the loop is run from behind it. It reads one entry
with each pass, and ends where the last one ends. -/
theorem rtk_parse_encodeConfig (entries : List ConfigEntry)
    (hlen : (encodeEntries entries).length < 2 ^ 16) (he : ∀ e ∈ entries, e.Readable)
    (flow : Bool) :
    rtk_parse_config_file (encodeConfig entries) flow =
      some (entries.foldl (fun found e => e.apply found) ⟨0, flow⟩) := by
  obtain ⟨hsignature, hlength⟩ := numberAt_encodeConfig hlen
  have htotal : (encodeConfig entries).length - 6 = (encodeEntries entries).length := by
    simp [encodeConfig, UINT16_TO_STREAM, UINT32_TO_STREAM]
  simp only [rtk_parse_config_file, hsignature, hlength, htotal, Option.bind_eq_bind,
    Option.bind_some, ne_eq, not_true_eq_false, if_false]
  exact parseEntries_encode entries he rfl (Nat.zero_add _).symm (Nat.lt_succ_self _) _

/-- A file with two entries, the second of which sets a speed of 1500000. -/
theorem rtk_parse_encodeConfig_two :
    rtk_parse_config_file (encodeConfig
      [⟨0xf4, [1, 0, 0, 0, 5, 0x50, 0, 0], by decide⟩,
        ⟨0xc, [3, 0x40, 0, 0, 0x50, 0xc5, 0xea, 0x19, 0xe1, 0x1b, 0xf1, 0xaf, 0x5f, 1, 0xa4, 0xb],
          by decide⟩]) false = some ⟨0x4003, true⟩ := by
  rw [rtk_parse_encodeConfig _ (by decide) (by decide) false]
  rfl

/-- A file without the signature, or with another length, sets nothing. -/
theorem rtk_parse_config_file_of_header {config_buf : List Byte} {flow : Bool} {found : Found}
    (h : rtk_parse_config_file config_buf flow = some found)
    (hheader : numberAt 4 config_buf 0 ≠ some RTK_VENDOR_CONFIG_MAGIC.toNat ∨
      numberAt 2 config_buf 4 ≠ some (config_buf.length - 6)) : found = ⟨0, flow⟩ := by
  unfold rtk_parse_config_file at h
  cases hlen : numberAt 2 config_buf 4 with
  | none => simp [hlen] at h
  | some config_len =>
    cases hsig : numberAt 4 config_buf 0 with
    | none => simp [hlen, hsig] at h
    | some signature =>
      rw [hlen, hsig, Option.some_inj.ne, Option.some_inj.ne] at hheader
      simp only [hlen, hsig, Option.bind_eq_bind, Option.bind_some] at h
      split_ifs at h with hs hl
      · exact (Option.some_inj.mp h).symm
      · exact (Option.some_inj.mp h).symm
      · rcases hheader with hheader | hheader
        · exact absurd hheader hs
        · exact absurd hheader hl

end Bluetooth.Rtk
