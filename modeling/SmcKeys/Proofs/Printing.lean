import SmcKeys.Console.Output

namespace SmcKeys.Console

open Text.Json (Scalar)

/-- What a report says of one thing, and what the thing is called in an object, in a line and at
the head of a column. -/
structure Datum where
  member : String
  label : String
  heading : String
  content : Scalar

def Datum.text (datum : Datum) : String :=
  match datum.content with
  | .number n => toString n
  | .string text => text

def Datum.named (label heading : String) (content : Scalar) : Datum :=
  ⟨label, label, heading, content⟩

namespace Kit

variable (kit : Kit)

def data : Report → List Datum
  | .value v =>
      [.named "key" "KEY" (.string v.key.text),
        ⟨"data_type", "type", "TYPE", .string v.type.text⟩,
        ⟨"data_size", "size", "SIZE", .number v.size.toNat⟩,
        .named "bytes" "BYTES" (.string (kit.writeHex v.significant))]
  | .info key declared =>
      [.named "key" "KEY" (.string key.text),
        ⟨"data_type", "type", "TYPE", .string declared.type.text⟩,
        ⟨"data_size", "size", "SIZE", .number declared.size.toNat⟩,
        .named "attributes" "ATTRIBUTES"
          (.string ("0x" ++ Text.Hex.encode [declared.attributes]))]
  | .index place key =>
      [.named "index" "INDEX" (.number place.toNat), .named "key" "KEY" (.string key.text),
        .named "code" "CODE"
          (.string ("0x" ++ Text.Hex.encode (Bytes.digits 4 key.number.toNat).reverse))]
  | .version _ => []

def about : Bool → List String
  | false => ["smcprims 0.1.0"]
  | true =>
      ["name: smcprims", "version: 0.1.0", "target: " ++ kit.build.target.getD "unknown",
        "target_os: " ++ kit.build.system, "target_arch: " ++ kit.build.architecture,
        "service: AppleSMC", "rustc: " ++ kit.build.compiler.getD "unknown",
        "git_hash: " ++ kit.build.commit.getD "unknown"]

/-- The data of a report in one line. -/
def dataLine (report : Report) : String :=
  String.intercalate " " ((kit.data report).map fun d => d.label ++ "=" ++ d.text)

def stdout (format : Format) (report : Report) : List UInt8 :=
  match format, report with
  | _, .version extended => Text.utf8 (String.join ((kit.about extended).map (· ++ "\n")))
  | .raw, .value v => v.significant
  | .raw, .index _ key => Text.utf8 (key.text ++ "\n")
  | .json, report =>
      Text.utf8 (kit.object ((kit.data report).map fun d => (d.member, d.content)) ++ "\n")
  | .table, report =>
      Text.utf8 (kit.grid ((kit.data report).map fun d => ⟨d.heading, d.text⟩) ++ "\n")
  | _, report => Text.utf8 (kit.dataLine report ++ "\n")

theorem attributesText_eq (info : KeyInfo) :
    attributesText info = "0x" ++ Text.Hex.encode [info.attributes] := by
  have hdigits : Bytes.digits 1 info.attributes.toNat = [info.attributes] := by
    simp [Bytes.digits]
  rw [attributesText, Text.Hex.number, hdigits, List.reverse_singleton]

theorem dataLine_value (v : Value) :
    kit.dataLine (.value v) =
      "key=" ++ v.key.text ++ " type=" ++ v.type.text ++ " size=" ++ toString v.size.toNat ++
        " bytes=" ++ kit.writeHex v.significant := by
  rw [← String.toList_inj]
  simp [dataLine, data, Datum.named, Datum.text]

theorem dataLine_info (key : Code) (declared : KeyInfo) :
    kit.dataLine (.info key declared) = infoLine key declared := by
  rw [infoLine, attributesText_eq, ← String.toList_inj]
  simp [dataLine, data, Datum.named, Datum.text]

theorem dataLine_index (place : UInt32) (key : Code) :
    kit.dataLine (.index place key) =
      "index=" ++ toString place.toNat ++ " key=" ++ key.text ++ " code=" ++ codeText key := by
  rw [codeText, Text.Hex.number, ← String.toList_inj]
  simp [dataLine, data, Datum.named, Datum.text]

theorem toBytes_print (format : Format) (report : Report) :
    (kit.print format report).toBytes = kit.stdout format report := by
  cases report with
  | value v =>
      cases format with
      | json => rfl
      | table => rfl
      | pretty => exact congrArg (fun line => Text.utf8 (line ++ "\n")) (kit.dataLine_value v).symm
      | raw => rfl
  | info key declared =>
      have hline : Text.utf8 (infoLine key declared ++ "\n") =
          Text.utf8 (kit.dataLine (.info key declared) ++ "\n") := by
        rw [dataLine_info]
      have hdata : kit.data (.info key declared) =
          [.named "key" "KEY" (.string key.text),
            ⟨"data_type", "type", "TYPE", .string declared.type.text⟩,
            ⟨"data_size", "size", "SIZE", .number declared.size.toNat⟩,
            .named "attributes" "ATTRIBUTES" (.string (attributesText declared))] := by
        rw [attributesText_eq]
        rfl
      cases format with
      | json => simp only [stdout, hdata]; rfl
      | table => simp only [stdout, hdata]; rfl
      | pretty => exact hline
      | raw => exact hline
  | index place key =>
      cases format with
      | json => rfl
      | table => rfl
      | pretty =>
          exact congrArg (fun line => Text.utf8 (line ++ "\n")) (kit.dataLine_index place key).symm
      | raw => rfl
  | version extended => cases extended <;> cases format <;> rfl

end Kit

end SmcKeys.Console
