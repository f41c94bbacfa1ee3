import SchemaScaffold.Table
import SchemaScaffold.Value

namespace SchemaScaffold

def Column.toValue (column : Column) : Value :=
  .record [
    ("columnName", .text column.name),
    ("propertyName", .text column.propertyName),
    ("rawDbType", .text column.rawType),
    ("mappedType", .text column.javaType.source),
    ("length", .optText column.length),
    ("maxLength", .optNumber column.maxLength),
    ("nullable", .bool column.nullable),
    ("isPrimaryKey", .bool column.isPrimaryKey),
    ("defaultValue", .optText column.defaultValue),
    ("comment", .text column.comment)]

def Table.columnValues (table : Table) : Value := .list (table.columns.map Column.toValue)

def Table.toValue (table : Table) : Value :=
  .record [
    ("tableName", .text table.name),
    ("className", .text table.className),
    ("tableComment", .text table.comment),
    ("primaryKeyType", .text table.primaryKeyType.source),
    ("primaryKeyColumn", .optText table.primaryKeyColumn),
    ("columns", table.columnValues),
    ("imports", .texts table.imports)]

end SchemaScaffold
