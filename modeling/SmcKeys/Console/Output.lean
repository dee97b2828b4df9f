import SmcKeys.Connection
import SmcKeys.Console.Kit
import SmcKeys.Text.Hex
import SmcKeys.Text.Json

namespace SmcKeys.Console

def programName : String := "smcprims"

def programVersion : String := "0.1.0"

def attributesText (info : KeyInfo) : String :=
  Text.Hex.number 1 info.attributes.toNat

def codeText (key : Code) : String :=
  Text.Hex.number 4 key.number.toNat

def infoLine (key : Code) (info : KeyInfo) : String :=
  "key=" ++ key.text ++ " type=" ++ info.type.text ++ " size=" ++ toString info.size.toNat ++
    " attributes=" ++ attributesText info

namespace Kit

variable (kit : Kit)

def object (ms : List (String × Text.Json.Scalar)) : String :=
  Text.Json.object kit.quote ms

def showValue (v : Value) : Format → Printed
  | .json => .line <| kit.object
      [("key", .string v.key.text), ("data_type", .string v.type.text),
        ("data_size", .number v.size.toNat), ("bytes", .string (kit.writeHex v.significant))]
  | .table => .line <| kit.grid
      [⟨"KEY", v.key.text⟩, ⟨"TYPE", v.type.text⟩, ⟨"SIZE", toString v.size.toNat⟩,
        ⟨"BYTES", kit.writeHex v.significant⟩]
  | .pretty => .line <|
      "key=" ++ v.key.text ++ " type=" ++ v.type.text ++ " size=" ++ toString v.size.toNat ++
        " bytes=" ++ kit.writeHex v.significant
  | .raw => .bytes v.significant

def showInfo (key : Code) (info : KeyInfo) : Format → Printed
  | .json => .line <| kit.object
      [("key", .string key.text), ("data_type", .string info.type.text),
        ("data_size", .number info.size.toNat), ("attributes", .string (attributesText info))]
  | .table => .line <| kit.grid
      [⟨"KEY", key.text⟩, ⟨"TYPE", info.type.text⟩, ⟨"SIZE", toString info.size.toNat⟩,
        ⟨"ATTRIBUTES", attributesText info⟩]
  | .pretty => .line (infoLine key info)
  | .raw => .line (infoLine key info)

def showIndex (index : UInt32) (key : Code) : Format → Printed
  | .json => .line <| kit.object
      [("index", .number index.toNat), ("key", .string key.text),
        ("code", .string (codeText key))]
  | .table => .line <| kit.grid
      [⟨"INDEX", toString index.toNat⟩, ⟨"KEY", key.text⟩, ⟨"CODE", codeText key⟩]
  | .pretty => .line <|
      "index=" ++ toString index.toNat ++ " key=" ++ key.text ++ " code=" ++ codeText key
  | .raw => .line key.text

/-- What the program tells about itself; the same in every format. -/
def versionLines (extended : Bool) : List String :=
  if extended then
    ["name: " ++ programName, "version: " ++ programVersion,
      "target: " ++ kit.build.target.getD "unknown", "target_os: " ++ kit.build.system,
      "target_arch: " ++ kit.build.architecture, "service: " ++ Connection.serviceName,
      "rustc: " ++ kit.build.compiler.getD "unknown",
      "git_hash: " ++ kit.build.commit.getD "unknown"]
  else [programName ++ " " ++ programVersion]

def print (format : Format) : Report → Printed
  | .value v => kit.showValue v format
  | .info key declared => kit.showInfo key declared format
  | .index place key => kit.showIndex place key format
  | .version extended => .text (String.join ((kit.versionLines extended).map (· ++ "\n")))

end Kit

end SmcKeys.Console
