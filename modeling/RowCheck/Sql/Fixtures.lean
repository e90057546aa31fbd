import RowCheck.Sql.Database

/-!
# The fixture data

Two small data sets in schemas of their own: employees and departments, and a slice of the sales of
a food market.
-/

namespace RowCheck.Sql

namespace Fixtures

/-- A column without a default value. -/
def column (name type : String) (notNull : Bool) : TableColumn :=
  ⟨name, some type, notNull, .null⟩

/-- A column that holds the row numbers. -/
def key (name : String) : TableColumn := column name "INTEGER" false

/-- A column that is never `NULL`. -/
def required (name type : String) : TableColumn := column name type true

/-- An integer as a value. -/
def int (i : Int) : Value := .int (.ofInt i)

/-- A whole number as a float. -/
def real (i : Int) : Value := .real (.ofInt i)

def departments : Table where
  name := "depts"
  columns := [key "deptno", required "name" "TEXT"]
  key? := some 0
  rows :=
    [⟨10, [int 10, .ofString "Sales"]⟩,
     ⟨30, [int 30, .ofString "Marketing"]⟩,
     ⟨40, [int 40, .ofString "HR"]⟩]

def employees : Table where
  name := "emps"
  columns :=
    [key "empid", required "deptno" "INTEGER", required "name" "TEXT", required "salary" "REAL",
     column "commission" "INTEGER" false]
  key? := some 0
  rows :=
    [⟨100, [int 100, int 10, .ofString "Bill", real 10000, int 1000]⟩,
     ⟨110, [int 110, int 10, .ofString "Theodore", real 11500, int 250]⟩,
     ⟨150, [int 150, int 10, .ofString "Sebastian", real 7000, .null]⟩,
     ⟨200, [int 200, int 20, .ofString "Eric", real 8000, int 500]⟩]

def products : Table where
  name := "product"
  columns := [key "product_id", required "product_name" "TEXT"]
  key? := some 0
  rows :=
    [⟨10, [int 10, .ofString "Washington Berry Juice"]⟩,
     ⟨20, [int 20, .ofString "Washington Mango Drink"]⟩]

def sales : Table where
  name := "sales_fact_1997"
  columns := [required "cust_id" "INTEGER", required "prod_id" "INTEGER"]
  key? := none
  rows := [⟨1, [int 100, int 10]⟩, ⟨2, [int 150, int 20]⟩]

end Fixtures

/-- A database with the fixture data. -/
def Database.fixtures : Database where
  schemas :=
    Database.empty.schemas
      ++ [⟨"hr", [Fixtures.departments, Fixtures.employees]⟩,
          ⟨"foodmart", [Fixtures.products, Fixtures.sales]⟩]
  saved? := none

end RowCheck.Sql
