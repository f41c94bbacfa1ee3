namespace SchemaScaffold.Limits

def mebibyte : Nat := 1024 * 1024

def maxSqlBytes : Nat := 10 * mebibyte

def maxFileBytes : Nat := 10 * mebibyte

def maxFiles : Nat := 1000

def maxProjectNameLength : Nat := 50

def maxPackageNameLength : Nat := 100

def maxFileNameLength : Nat := 200

def maxTables : Nat := 100

end SchemaScaffold.Limits
