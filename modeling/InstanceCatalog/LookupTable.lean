import InstanceCatalog.Number.Shortest
import InstanceCatalog.Text.Lowercase
import InstanceCatalog.Vendor.Shape

namespace InstanceCatalog
namespace LookupTable

def namespaceName : Text := "anyblob::cloud".toList

def ruler : Text :=
  "//---------------------------------------------------------------------------\n".toList

/-- The licence block of every table. -/
def preamble : Text :=
  ("// AnyBlob - Universal Cloud Object Storage Library\n" ++
    "// Dominik Durner, 2023\n" ++
    "//\n" ++
    "// This Source Code Form is subject to the terms of the Mozilla Public License, v. 2.0.\n" ++
    "// If a copy of the MPL was not distributed with this file, You can obtain one at " ++
    "http://mozilla.org/MPL/2.0/.\n" ++
    "// SPDX-License-Identifier: MPL-2.0\n").toList

def initializer (r : ShapedRecord) : Text :=
  "\x7b ".toList ++ r.name ++ ", ".toList ++ r.memory.toText ++ ", ".toList ++ Text.ofNat r.vcpu ++
    ", ".toList ++ Text.ofNat r.network ++ " \x7d".toList

def initializers (records : List ShapedRecord) : Text :=
  if records.isEmpty then "\x7b\x7d;\n".toList
  else
    "\x7b\n".toList ++ List.intercalate ",\n".toList (records.map initializer) ++
      " \x7d;\n".toList

def opening (vendor : Text) : Text :=
  let type := vendor ++ "Instance".toList
  "#include \"cloud/".toList ++ Text.lowercase vendor ++ "_instances.hpp\"\n".toList ++
    ruler ++ preamble ++ ruler ++
    "namespace ".toList ++ namespaceName ++ " \x7b\n".toList ++ ruler ++
    "using namespace std;\n".toList ++ ruler ++
    "vector<".toList ++ type ++ "> ".toList ++ type ++ "::getInstanceDetails()\n".toList ++
    "// Gets a vector of instance type infos\n\x7b\n".toList ++
    "    vector<".toList ++ type ++ "> instances =\n".toList

def closing : Text :=
  "return instances;\n\x7d\n".toList ++ ruler ++ "\x7d // namespace ".toList ++ namespaceName ++
    "\n".toList

def render (vendor : Text) (records : List ShapedRecord) : Text :=
  opening vendor ++ initializers records ++ closing

def outputPath (directory vendor : Text) : Text :=
  Path.join directory (Text.lowercase vendor ++ "_instances.cpp".toList)

def inputPath (directory vendor : Text) : Text :=
  Path.join directory (Text.lowercase vendor ++ ".csv".toList)

/-- What comes of a vendor's table: the path written and the number of records. -/
abbrev Result := Except Failure (Text × Nat)

/-- Shapes a vendor's export and writes its table. Nothing is written unless shaping succeeds. -/
def generate [Monad m] (files : FileAccess m) (schema : VendorSchema) (input output : Text) :
    m Result := do
  match ← schema.shapeFile files (inputPath input schema.vendor) with
  | .error failure => return .error failure
  | .ok records =>
    let path := outputPath output schema.vendor
    match ← files.write path (Utf8.encode (render schema.vendor records)) with
    | .error cause => return .error (.writing path cause)
    | .ok () => return .ok (path, records.length)

end LookupTable
end InstanceCatalog
