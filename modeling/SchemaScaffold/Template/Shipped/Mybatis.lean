namespace SchemaScaffold.Template.Shipped.Mybatis

def application : List String := [
  "package ⟦⟦ packageName ⟧⟧;",
  "",
  "import org.mybatis.spring.annotation.MapperScan;",
  "import org.springframework.boot.SpringApplication;",
  "import org.springframework.boot.autoconfigure.SpringBootApplication;",
  "⟦%- if config.useCache %⟧",
  "import org.springframework.cache.annotation.EnableCaching;",
  "⟦%- endif %⟧",
  "",
  "⟦% if config.useCache %⟧@EnableCaching",
  "⟦% endif -%⟧",
  "@MapperScan(\"⟦⟦ packageName ⟧⟧.mapper\")",
  "@SpringBootApplication",
  "public class ⟦⟦ className ⟧⟧Application ⟦",
  "",
  "    public static void main(String[] args) ⟦",
  "        SpringApplication.run(⟦⟦ className ⟧⟧Application.class, args);",
  "    ⟧",
  "⟧",
  ""]

def entity : List String := [
  "⟦%- macro cap(name) %⟧⟦⟦ name[:1] | upper ⟧⟧⟦⟦ name[1:] ⟧⟧⟦% endmacro -%⟧",
  "package ⟦⟦ packageName ⟧⟧.entity;",
  "⟦% for imp in imports %⟧",
  "import ⟦⟦ imp ⟧⟧;",
  "⟦%- endfor %⟧",
  "⟦%- if config.useLombok %⟧",
  "import lombok.Data;",
  "⟦%- endif %⟧",
  "",
  "/**",
  " * ⟦⟦ tableComment or tableName ⟧⟧",
  " */",
  "⟦% if config.useLombok %⟧@Data",
  "⟦% endif -%⟧",
  "⟦% if config.useApiDocs %⟧@Schema(description = \"⟦⟦ tableComment or tableName ⟧⟧\")",
  "⟦% endif -%⟧",
  "public class ⟦⟦ className ⟧⟧ ⟦",
  "⟦% for col in columns %⟧",
  "⟦%- if col.comment %⟧",
  "    /** ⟦⟦ col.comment ⟧⟧ */",
  "⟦%- endif %⟧",
  "⟦%- if config.useApiDocs %⟧",
  "    @Schema(description = \"⟦⟦ col.comment or col.columnName ⟧⟧\")",
  "⟦%- endif %⟧",
  "⟦%- if config.useValidation and not col.isPrimaryKey %⟧",
  "⟦%- if not col.nullable %⟧",
  "    @NotNull",
  "⟦%- endif %⟧",
  "⟦%- if col.maxLength and col.mappedType == \"String\" %⟧",
  "    @Size(max = ⟦⟦ col.maxLength ⟧⟧)",
  "⟦%- endif %⟧",
  "⟦%- endif %⟧",
  "    private ⟦⟦ col.mappedType ⟧⟧ ⟦⟦ col.propertyName ⟧⟧;",
  "⟦% endfor %⟧",
  "⟦%- if not config.useLombok %⟧",
  "⟦%- for col in columns %⟧",
  "    public ⟦⟦ col.mappedType ⟧⟧ get⟦⟦ cap(col.propertyName) ⟧⟧() ⟦",
  "        return ⟦⟦ col.propertyName ⟧⟧;",
  "    ⟧",
  "",
  "    public void set⟦⟦ cap(col.propertyName) ⟧⟧(⟦⟦ col.mappedType ⟧⟧ ⟦⟦ col.propertyName ⟧⟧) ⟦",
  "        this.⟦⟦ col.propertyName ⟧⟧ = ⟦⟦ col.propertyName ⟧⟧;",
  "    ⟧",
  "⟦% endfor %⟧",
  "⟦%- endif -%⟧",
  "⟧",
  ""]

def mapper : List String := [
  "package ⟦⟦ packageName ⟧⟧.mapper;",
  "",
  "import java.util.List;",
  "",
  "import org.apache.ibatis.annotations.Mapper;",
  "import org.apache.ibatis.annotations.Param;",
  "",
  "import ⟦⟦ packageName ⟧⟧.entity.⟦⟦ className ⟧⟧;",
  "",
  "/**",
  " * Data access for ⟦⟦ tableName ⟧⟧",
  " */",
  "@Mapper",
  "public interface ⟦⟦ className ⟧⟧Mapper ⟦",
  "",
  "    ⟦⟦ className ⟧⟧ selectById(@Param(\"id\") ⟦⟦ primaryKeyType ⟧⟧ id);",
  "",
  "    List<⟦⟦ className ⟧⟧> selectAll();",
  "⟦%- if config.usePagination %⟧",
  "",
  "    List<⟦⟦ className ⟧⟧> selectPage(@Param(\"offset\") long offset, @Param(\"size\") long size);",
  "",
  "    long count();",
  "⟦%- endif %⟧",
  "",
  "    int insert(⟦⟦ className ⟧⟧ entity);",
  "",
  "    int updateById(⟦⟦ className ⟧⟧ entity);",
  "",
  "    int deleteById(@Param(\"id\") ⟦⟦ primaryKeyType ⟧⟧ id);",
  "⟧",
  ""]

def mapperMarkup : List String := [
  "⟦%- set pk = primaryKeyColumnName or \"id\" -%⟧",
  "⟦%- set pkProp = primaryKeyPropertyName or \"id\" -%⟧",
  "<?xml version=\"1.0\" encoding=\"UTF-8\"?>",
  "<!DOCTYPE mapper PUBLIC \"-//mybatis.org//DTD Mapper 3.0//EN\" \"http://mybatis.org/dtd/mybatis-3-mapper.dtd\">",
  "<mapper namespace=\"⟦⟦ packageName ⟧⟧.mapper.⟦⟦ className ⟧⟧Mapper\">",
  "",
  "    <resultMap id=\"BaseResultMap\" type=\"⟦⟦ packageName ⟧⟧.entity.⟦⟦ className ⟧⟧\">",
  "⟦%- for col in columns %⟧",
  "        <⟦% if col.isPrimaryKey %⟧id⟦% else %⟧result⟦% endif %⟧ column=\"⟦⟦ col.columnName ⟧⟧\" property=\"⟦⟦ col.propertyName ⟧⟧\"/>",
  "⟦%- endfor %⟧",
  "    </resultMap>",
  "",
  "    <sql id=\"Base_Column_List\">",
  "        ⟦% for col in columns %⟧⟦⟦ col.columnName ⟧⟧⟦% if not loop.last %⟧, ⟦% endif %⟧⟦% endfor %⟧",
  "    </sql>",
  "",
  "    <select id=\"selectById\" resultMap=\"BaseResultMap\">",
  "        SELECT <include refid=\"Base_Column_List\"/> FROM ⟦⟦ tableName ⟧⟧ WHERE ⟦⟦ pk ⟧⟧ = #⟦id⟧",
  "    </select>",
  "",
  "    <select id=\"selectAll\" resultMap=\"BaseResultMap\">",
  "        SELECT <include refid=\"Base_Column_List\"/> FROM ⟦⟦ tableName ⟧⟧",
  "    </select>",
  "⟦%- if config.usePagination %⟧",
  "",
  "    <select id=\"selectPage\" resultMap=\"BaseResultMap\">",
  "        SELECT <include refid=\"Base_Column_List\"/> FROM ⟦⟦ tableName ⟧⟧ LIMIT #⟦size⟧ OFFSET #⟦offset⟧",
  "    </select>",
  "",
  "    <select id=\"count\" resultType=\"long\">",
  "        SELECT COUNT(*) FROM ⟦⟦ tableName ⟧⟧",
  "    </select>",
  "⟦%- endif %⟧",
  "",
  "    <insert id=\"insert\" useGeneratedKeys=\"true\" keyProperty=\"⟦⟦ pkProp ⟧⟧\">",
  "        INSERT INTO ⟦⟦ tableName ⟧⟧ (⟦% for col in columns if not col.isPrimaryKey %⟧⟦⟦ col.columnName ⟧⟧⟦% if not loop.last %⟧, ⟦% endif %⟧⟦% endfor %⟧)",
  "        VALUES (⟦% for col in columns if not col.isPrimaryKey %⟧#⟦⟦ \"⟦\" ⟧⟧⟦⟦ col.propertyName ⟧⟧⟧⟦% if not loop.last %⟧, ⟦% endif %⟧⟦% endfor %⟧)",
  "    </insert>",
  "",
  "    <update id=\"updateById\">",
  "        UPDATE ⟦⟦ tableName ⟧⟧",
  "        <set>",
  "⟦%- for col in columns if not col.isPrimaryKey %⟧",
  "            <if test=\"⟦⟦ col.propertyName ⟧⟧ != null\">⟦⟦ col.columnName ⟧⟧ = #⟦⟦ \"⟦\" ⟧⟧⟦⟦ col.propertyName ⟧⟧⟧,</if>",
  "⟦%- endfor %⟧",
  "        </set>",
  "        WHERE ⟦⟦ pk ⟧⟧ = #⟦⟦ \"⟦\" ⟧⟧⟦⟦ pkProp ⟧⟧⟧",
  "    </update>",
  "",
  "    <delete id=\"deleteById\">",
  "        DELETE FROM ⟦⟦ tableName ⟧⟧ WHERE ⟦⟦ pk ⟧⟧ = #⟦id⟧",
  "    </delete>",
  "</mapper>",
  ""]

def serviceImpl : List String := [
  "package ⟦⟦ packageName ⟧⟧.service.impl;",
  "",
  "import java.util.List;",
  "",
  "import org.springframework.stereotype.Service;",
  "⟦%- if config.useCache %⟧",
  "import org.springframework.cache.annotation.CacheEvict;",
  "import org.springframework.cache.annotation.Cacheable;",
  "⟦%- endif %⟧",
  "",
  "import ⟦⟦ packageName ⟧⟧.entity.⟦⟦ className ⟧⟧;",
  "import ⟦⟦ packageName ⟧⟧.mapper.⟦⟦ className ⟧⟧Mapper;",
  "import ⟦⟦ packageName ⟧⟧.service.I⟦⟦ className ⟧⟧Service;",
  "",
  "@Service",
  "public class ⟦⟦ className ⟧⟧ServiceImpl implements I⟦⟦ className ⟧⟧Service ⟦",
  "",
  "    private final ⟦⟦ className ⟧⟧Mapper ⟦⟦ classNameUncap ⟧⟧Mapper;",
  "",
  "    public ⟦⟦ className ⟧⟧ServiceImpl(⟦⟦ className ⟧⟧Mapper ⟦⟦ classNameUncap ⟧⟧Mapper) ⟦",
  "        this.⟦⟦ classNameUncap ⟧⟧Mapper = ⟦⟦ classNameUncap ⟧⟧Mapper;",
  "    ⟧",
  "",
  "    @Override",
  "⟦%- if config.useCache %⟧",
  "    @Cacheable(value = \"⟦⟦ classNameUncap ⟧⟧\", key = \"#id\")",
  "⟦%- endif %⟧",
  "    public ⟦⟦ className ⟧⟧ getById(⟦⟦ primaryKeyType ⟧⟧ id) ⟦",
  "        return ⟦⟦ classNameUncap ⟧⟧Mapper.selectById(id);",
  "    ⟧",
  "",
  "    @Override",
  "    public List<⟦⟦ className ⟧⟧> list() ⟦",
  "        return ⟦⟦ classNameUncap ⟧⟧Mapper.selectAll();",
  "    ⟧",
  "⟦%- if config.usePagination %⟧",
  "",
  "    @Override",
  "    public List<⟦⟦ className ⟧⟧> page(long page, long size) ⟦",
  "        return ⟦⟦ classNameUncap ⟧⟧Mapper.selectPage((page - 1) * size, size);",
  "    ⟧",
  "",
  "    @Override",
  "    public long count() ⟦",
  "        return ⟦⟦ classNameUncap ⟧⟧Mapper.count();",
  "    ⟧",
  "⟦%- endif %⟧",
  "",
  "    @Override",
  "    public ⟦⟦ className ⟧⟧ create(⟦⟦ className ⟧⟧ entity) ⟦",
  "        ⟦⟦ classNameUncap ⟧⟧Mapper.insert(entity);",
  "        return entity;",
  "    ⟧",
  "",
  "    @Override",
  "⟦%- if config.useCache %⟧",
  "    @CacheEvict(value = \"⟦⟦ classNameUncap ⟧⟧\", allEntries = true)",
  "⟦%- endif %⟧",
  "    public boolean update(⟦⟦ className ⟧⟧ entity) ⟦",
  "        return ⟦⟦ classNameUncap ⟧⟧Mapper.updateById(entity) > 0;",
  "    ⟧",
  "",
  "    @Override",
  "⟦%- if config.useCache %⟧",
  "    @CacheEvict(value = \"⟦⟦ classNameUncap ⟧⟧\", key = \"#id\")",
  "⟦%- endif %⟧",
  "    public boolean delete(⟦⟦ primaryKeyType ⟧⟧ id) ⟦",
  "        return ⟦⟦ classNameUncap ⟧⟧Mapper.deleteById(id) > 0;",
  "    ⟧",
  "⟧",
  ""]

end SchemaScaffold.Template.Shipped.Mybatis
